import Chip8.Text.Ranges

/-!
# Blanks

The characters that may surround a number: the six blanks of ASCII, and the white space of
Unicode above it.
-/

namespace Chip8.Text

/-- The code points of blanks. -/
def blanks : List (Nat × Nat) :=
  [(0x9, 0xD), (0x20, 0x20), (0x85, 0x85), (0xA0, 0xA0), (0x1680, 0x1680), (0x2000, 0x200A),
   (0x2028, 0x2029), (0x202F, 0x202F), (0x205F, 0x205F), (0x3000, 0x3000)]

/-- Whether a character may surround a number. -/
def isBlank (c : Char) : Bool := inRanges blanks c.toNat

/-- Every blank of the core library's ASCII class is one here. -/
theorem isBlank_of_isWhitespace (c : Char) (h : c.isWhitespace = true) : isBlank c = true := by
  simp only [Char.isWhitespace, Bool.or_eq_true, decide_eq_true_eq] at h
  obtain ((rfl | rfl) | rfl) | rfl := h <;> decide

/-- A text without the blanks at its ends. -/
def trimBlanks (cs : List Char) : List Char :=
  (((cs.dropWhile isBlank).reverse).dropWhile isBlank).reverse

end Chip8.Text
