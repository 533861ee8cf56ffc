import Chip8.Display

/-!
# Sprites

A sprite is a column of bytes, each a row of eight pixels, at a place on the screen.  What passes
the right or the bottom edge is cut off, never wrapped: `lit_mask` says which pixels a sprite
covers.
-/

namespace Chip8

/-- Rows of eight pixels with their top left corner at a place on the screen. -/
structure Sprite where
  left : Fin 64
  top : Fin 32
  rows : List UInt8
deriving DecidableEq, Repr

namespace Sprite

/-- A byte as a screen row, with its first pixel in column `left`. -/
def place (left : Nat) (byte : UInt8) : BitVec 64 := (byte.toBitVec ++ 0#56) >>> left

/-- The set pixels of the sprite that land on the screen. -/
def mask (s : Sprite) : Display :=
  ⟨Vector.ofFn fun y =>
    if s.top ≤ y then place s.left (s.rows.getD (y - s.top : Nat) 0) else 0⟩

/-- How many rows of a sprite of a given height, with its first row at `top`, are on screen. -/
def visibleRows (top : Fin 32) (height : Nat) : Nat := min height (32 - top)

/-! ## The pixels of a sprite -/

theorem getMsbD_place (left : Nat) (byte : UInt8) (x : Nat) (hx : x < 64) :
    (place left byte).getMsbD x =
      (decide (left ≤ x) && decide (x - left < 8) && byte.toBitVec.getMsbD (x - left)) := by
  simp only [place, BitVec.getMsbD_ushiftRight, BitVec.getMsbD_append]
  grind

/-- A pixel is covered when it lies within the rectangle of the sprite and its bit is set. -/
theorem lit_mask (s : Sprite) (x : Fin 64) (y : Fin 32) :
    s.mask.lit x y = (decide (s.top ≤ y ∧ s.left ≤ x ∧ x - s.left.val < 8) &&
      (s.rows.getD (y - s.top : Nat) 0).toBitVec.getMsbD (x - s.left)) := by
  have hrow : (s.mask.rows[y] : BitVec 64) =
      if s.top ≤ y then place s.left (s.rows.getD (y - s.top : Nat) 0) else 0 :=
    Vector.getElem_ofFn y.isLt
  unfold Display.lit
  rw [hrow]
  by_cases h : s.top ≤ y
  · rw [if_pos h, getMsbD_place _ _ _ x.isLt]
    grind
  · rw [if_neg h, decide_eq_false fun hc => h hc.1]
    exact BitVec.getMsbD_zero

end Sprite

end Chip8
