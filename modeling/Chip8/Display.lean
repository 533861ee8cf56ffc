/-!
# The display

64 by 32 pixels.  A row is a 64-bit word whose most significant bit is the leftmost pixel, so
that drawing a row is one exclusive or.  `lit` is the view of the display by coordinates; two
displays with the same view are equal (`ext_lit`), and `xor` acts pixel by pixel (`lit_xor`).
-/

namespace Chip8

/-- The pixels of the screen, by rows from the top. -/
@[ext]
structure Display where
  rows : Vector (BitVec 64) 32
deriving DecidableEq

namespace Display

/-- The number of columns. -/
def width : Nat := 64

/-- The number of rows. -/
def height : Nat := 32

def blank : Display := ⟨Vector.replicate 32 0⟩

/-- Whether the pixel in column `x` of row `y` is on. -/
def lit (d : Display) (x : Fin 64) (y : Fin 32) : Bool := d.rows[y].getMsbD x

/-- The pixels that are on in exactly one of two displays. -/
def xor (d e : Display) : Display := ⟨Vector.zipWith (· ^^^ ·) d.rows e.rows⟩

/-- Whether some pixel is on in both displays. -/
def overlaps (d e : Display) : Bool :=
  (List.finRange 32).any fun y => d.rows[y] &&& e.rows[y] != 0

def setRow (d : Display) (y : Nat) (row : BitVec 64) : Display := ⟨d.rows.setIfInBounds y row⟩

/-! ## The view by coordinates -/

/-- Displays are equal when they agree at every coordinate. -/
theorem ext_lit {d e : Display} (h : ∀ x y, d.lit x y = e.lit x y) : d = e := by
  ext y hy : 2
  refine BitVec.eq_of_getMsbD_eq fun x hx => ?_
  exact h ⟨x, hx⟩ ⟨y, hy⟩

@[simp] theorem lit_blank (x : Fin 64) (y : Fin 32) : blank.lit x y = false := by
  simp [lit, blank]

@[simp] theorem lit_xor (d e : Display) (x : Fin 64) (y : Fin 32) :
    (d.xor e).lit x y = (d.lit x y ^^ e.lit x y) := by
  simp [lit, xor]

theorem overlaps_iff {d e : Display} :
    d.overlaps e = true ↔ ∃ x y, d.lit x y = true ∧ e.lit x y = true := by
  simp only [overlaps, List.any_eq_true, List.mem_finRange, true_and, bne_iff_ne]
  constructor
  · rintro ⟨y, hy⟩
    have hbit : ∃ x, x < 64 ∧ (d.rows[y] &&& e.rows[y]).getMsbD x = true := by
      refine Classical.byContradiction fun hno => hy ?_
      refine BitVec.eq_of_getMsbD_eq fun x hx => ?_
      have : ¬ (d.rows[y] &&& e.rows[y]).getMsbD x = true := fun h => hno ⟨x, hx, h⟩
      simpa using this
    obtain ⟨x, hx, h⟩ := hbit
    rw [BitVec.getMsbD_and, Bool.and_eq_true] at h
    exact ⟨⟨x, hx⟩, y, h⟩
  · rintro ⟨x, y, hd, he⟩
    refine ⟨y, fun hzero => ?_⟩
    have hbit : (d.rows[y] &&& e.rows[y]).getMsbD x = true := by
      rw [BitVec.getMsbD_and, Bool.and_eq_true]
      exact ⟨hd, he⟩
    rw [hzero] at hbit
    simp at hbit

end Display

end Chip8
