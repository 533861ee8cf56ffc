import Chip8.Proofs.Diagnosis

/-!
# Drawing pixel by pixel

The specification draws a sprite by two nested loops that stop at the edges of the screen: a set
pixel on a lit cell puts it out and sets the flag, another one lights it (`State.drawByPixels`).
The machine draws all pixels at once.  The two agree (`execute_draw_eq_drawByPixels`) because each
turn of a loop lays one more mask over the screen, the masks have no pixel in common, and laying
two such masks one after the other is laying both at once (`overlay_overlay`).
-/

namespace Chip8

namespace Display

/-- The display whose lit pixels are given by their coordinates. -/
def ofLit (lit : Fin 64 → Fin 32 → Bool) : Display :=
  ⟨Vector.ofFn fun y =>
    (BitVec.ofBoolListBE (List.ofFn fun x => lit x y)).cast List.length_ofFn⟩

@[simp] theorem lit_ofLit (f : Fin 64 → Fin 32 → Bool) (x : Fin 64) (y : Fin 32) :
    (ofLit f).lit x y = f x y := by
  simp only [ofLit, lit, Fin.getElem_fin, Vector.getElem_ofFn, BitVec.getMsbD_cast,
    BitVec.getMsbD_ofBoolListBE, List.getD_eq_getElem?_getD, List.getElem?_ofFn, x.isLt,
    dite_true, Option.getD_some]

def setPixel (d : Display) (x : Fin 64) (y : Fin 32) (on : Bool) : Display :=
  ofLit fun x' y' => if x' = x ∧ y' = y then on else d.lit x' y'

/-- No pixel is lit in both. -/
def Disjoint (d e : Display) : Prop := ∀ x y, d.lit x y = true → e.lit x y = false

theorem xor_assoc (c d e : Display) : (c.xor d).xor e = c.xor (d.xor e) :=
  ext_lit fun x y => by simp only [lit_xor, Bool.xor_assoc]

theorem xor_blank (d : Display) : d.xor blank = d :=
  ext_lit fun x y => by simp only [lit_xor, lit_blank, Bool.xor_false]

theorem overlaps_blank (d : Display) : d.overlaps blank = false := by
  rw [← Bool.not_eq_true, overlaps_iff]
  rintro ⟨x, y, -, h⟩
  rw [lit_blank] at h
  cases h

/-- A mask laid over the screen does not matter to one that is disjoint from it. -/
theorem overlaps_xor_left {d m n : Display} (h : m.Disjoint n) :
    (d.xor m).overlaps n = d.overlaps n := by
  rw [Bool.eq_iff_iff, overlaps_iff, overlaps_iff]
  refine exists_congr fun x => exists_congr fun y => and_congr_left fun hn => ?_
  have hm : m.lit x y = false := by
    cases hm : m.lit x y with
    | false => rfl
    | true => exact absurd (h x y hm) (by rw [hn]; decide)
  rw [lit_xor, hm, Bool.xor_false]

theorem overlaps_xor_right {d m n : Display} (h : m.Disjoint n) :
    d.overlaps (m.xor n) = (d.overlaps m || d.overlaps n) := by
  rw [Bool.eq_iff_iff, Bool.or_eq_true, overlaps_iff, overlaps_iff, overlaps_iff]
  constructor
  · rintro ⟨x, y, hd, hmn⟩
    rw [lit_xor] at hmn
    cases hm : m.lit x y with
    | true => exact .inl ⟨x, y, hd, hm⟩
    | false => exact .inr ⟨x, y, hd, by rwa [hm, Bool.false_xor] at hmn⟩
  · rintro (⟨x, y, hd, hm⟩ | ⟨x, y, hd, hn⟩)
    · exact ⟨x, y, hd, by rw [lit_xor, hm, h x y hm]; rfl⟩
    · refine ⟨x, y, hd, ?_⟩
      cases hm : m.lit x y with
      | true => exact absurd (h x y hm) (by rw [hn]; decide)
      | false => rw [lit_xor, hm, hn]; rfl

end Display

namespace State

/-! ## The loops of the specification -/

/-- A set pixel of a sprite on a cell of the screen. -/
def plot (s : State) (x : Fin 64) (y : Fin 32) : State :=
  if s.display.lit x y then { s with display := s.display.setPixel x y false }.setFlag true
  else { s with display := s.display.setPixel x y true }

/-- So many pixels of a row of a sprite from pixel `c` on, up to the right edge. -/
def plotRow (byte : UInt8) (left : Nat) (y : Fin 32) : Nat → Nat → State → State
  | 0, _, s => s
  | k + 1, c, s =>
    if h : left + c < 64 then
      plotRow byte left y k (c + 1)
        (if byte.toNat.testBit (7 - c) then s.plot ⟨left + c, h⟩ y else s)
    else s

/-- So many rows of a sprite from row `r` on, up to the bottom edge. -/
def plotRows (left top : Nat) : Nat → Nat → State → State
  | 0, _, s => s
  | k + 1, r, s =>
    if h : top + r < 32 then
      plotRows left top k (r + 1)
        (plotRow (s.memory.read (s.index.toNat + r)) left ⟨top + r, h⟩ 8 0 s)
    else s

/-- The sprite of a word, pixel by pixel.  The place is read before the flag is cleared. -/
def drawByPixels (s : State) (w : Word) : State :=
  plotRows ((s.register (Word.x w)).toNat % 64) ((s.register (Word.y w)).toNat % 32)
    (Word.n w) 0 (s.setFlag false)

/-! ## Masks -/

/-- Lay a mask over the screen, and set the flag if a lit pixel goes out. -/
def overlay (s : State) (m : Display) : State :=
  { s with
    display := s.display.xor m
    registers := if s.display.overlaps m then (s.setFlag true).registers else s.registers }

theorem overlay_blank (s : State) : s.overlay .blank = s := by
  simp only [overlay, Display.xor_blank, Display.overlaps_blank, Bool.false_eq_true, if_false]

theorem registers_setFlag_setFlag (s : State) (first last : Bool) :
    ((s.setFlag first).setFlag last).registers = (s.setFlag last).registers :=
  Vector.set_set _ flagRegister.isLt

theorem overlay_overlay (s : State) {m n : Display} (h : m.Disjoint n) :
    (s.overlay m).overlay n = s.overlay (m.xor n) := by
  simp only [overlay, Display.xor_assoc, Display.overlaps_xor_left h,
    Display.overlaps_xor_right h]
  cases s.display.overlaps m with
  | false =>
    cases s.display.overlaps n with
    | false => rfl
    | true => rfl
  | true =>
    cases s.display.overlaps n with
    | false => rfl
    | true =>
      exact congrArg
        (fun registers => { s with display := s.display.xor (m.xor n), registers := registers })
        (s.registers_setFlag_setFlag true true)

theorem plot_eq_overlay (s : State) (x : Fin 64) (y : Fin 32) :
    s.plot x y = s.overlay (.ofLit fun x' y' => decide (x' = x ∧ y' = y)) := by
  have hdisplay : ∀ on : Bool, s.display.lit x y = !on →
      s.display.setPixel x y on =
        s.display.xor (.ofLit fun x' y' => decide (x' = x ∧ y' = y)) := by
    intro on hlit
    refine Display.ext_lit fun x' y' => ?_
    simp only [Display.setPixel, Display.lit_ofLit, Display.lit_xor]
    by_cases hxy : x' = x ∧ y' = y
    · rw [hxy.1, hxy.2, hlit]
      cases on <;> simp
    · simp [hxy]
  have hoverlaps : s.display.overlaps (.ofLit fun x' y' => decide (x' = x ∧ y' = y)) =
      s.display.lit x y := by
    rw [Bool.eq_iff_iff, Display.overlaps_iff]
    simp only [Display.lit_ofLit, decide_eq_true_eq]
    constructor
    · rintro ⟨x', y', hlit, rfl, rfl⟩
      exact hlit
    · exact fun hlit => ⟨x, y, hlit, rfl, rfl⟩
  unfold plot overlay
  rw [hoverlaps]
  cases hlit : s.display.lit x y with
  | true => rw [if_pos rfl, hdisplay false hlit]; rfl
  | false => rw [if_neg Bool.false_ne_true, hdisplay true hlit]; rfl

/-- The set pixels of a row of a sprite from `c` on, up to pixel `c + k`. -/
def rowMask (byte : UInt8) (left : Nat) (y : Fin 32) (k c : Nat) : Display :=
  .ofLit fun x' y' => decide (y' = y ∧ left + c ≤ x'.val ∧ x'.val < left + c + k) &&
    byte.toNat.testBit (7 - (x' - left))

/-- The set pixels of the rows of a sprite from `r` on, up to row `r + k`. -/
def rowsMask (s : State) (left top k r : Nat) : Display :=
  .ofLit fun x' y' =>
    decide ((top + r ≤ y'.val ∧ y'.val < top + r + k) ∧
      left ≤ x'.val ∧ x'.val < left + 8) &&
    (s.memory.read (s.index.toNat + (y' - top))).toNat.testBit (7 - (x' - left))

theorem ofLit_eq_blank {f : Fin 64 → Fin 32 → Bool} (h : ∀ x y, f x y = false) :
    Display.ofLit f = .blank :=
  Display.ext_lit fun x y => by rw [Display.lit_ofLit, h, Display.lit_blank]

theorem rowMask_eq_blank (byte : UInt8) (left : Nat) (y : Fin 32) {k c : Nat}
    (h : k = 0 ∨ 64 ≤ left + c) : rowMask byte left y k c = .blank := by
  apply ofLit_eq_blank
  intro x' y'
  have hx' := x'.isLt
  simp only [Bool.and_eq_false_imp, decide_eq_true_eq]
  omega

theorem rowsMask_eq_blank (s : State) (left top : Nat) {k r : Nat}
    (h : k = 0 ∨ 32 ≤ top + r) : s.rowsMask left top k r = .blank := by
  apply ofLit_eq_blank
  intro x' y'
  have hy' := y'.isLt
  simp only [Bool.and_eq_false_imp, decide_eq_true_eq]
  omega

/-- The loop over the pixels of a row lays the mask of those that are left. -/
theorem plotRow_eq_overlay (byte : UInt8) (left : Nat) (y : Fin 32) (k c : Nat) (s : State) :
    plotRow byte left y k c s = s.overlay (rowMask byte left y k c) := by
  induction k generalizing c s with
  | zero => rw [plotRow, rowMask_eq_blank _ _ _ (.inl rfl), overlay_blank]
  | succ k ih =>
    rw [plotRow]
    split
    · next hx =>
      rw [ih]
      split
      -- A pixel of the row is pixel `c`, which is laid by itself, or one behind it.
      · next hbit =>
        rw [plot_eq_overlay, overlay_overlay]
        · refine congrArg s.overlay (Display.ext_lit fun x' y' => ?_)
          simp only [rowMask, Display.lit_xor, Display.lit_ofLit]
          grind
        · intro x' y' h
          simp only [rowMask, Display.lit_ofLit] at h ⊢
          grind
      · next hbit =>
        refine congrArg s.overlay (Display.ext_lit fun x' y' => ?_)
        simp only [rowMask, Display.lit_ofLit]
        grind
    · next hx => rw [rowMask_eq_blank _ _ _ (.inr (Nat.le_of_not_lt hx)), overlay_blank]

theorem rowsMask_overlay (s : State) (m : Display) (left top k r : Nat) :
    (s.overlay m).rowsMask left top k r = s.rowsMask left top k r := rfl

/-- The loop over the rows of a sprite lays the mask of those that are left. -/
theorem plotRows_eq_overlay (left top k r : Nat) (s : State) :
    plotRows left top k r s = s.overlay (s.rowsMask left top k r) := by
  induction k generalizing r s with
  | zero => rw [plotRows, rowsMask_eq_blank _ _ _ (.inl rfl), overlay_blank]
  | succ k ih =>
    rw [plotRows]
    split
    · next hy =>
      -- The rows behind row `r` are read from a memory that drawing row `r` has not touched.
      rw [ih, plotRow_eq_overlay, rowsMask_overlay, overlay_overlay]
      · refine congrArg s.overlay (Display.ext_lit fun x' y' => ?_)
        simp only [rowMask, rowsMask, Display.lit_xor, Display.lit_ofLit]
        grind
      · intro x' y' h
        simp only [rowMask, rowsMask, Display.lit_ofLit] at h ⊢
        grind
    · next hy => rw [rowsMask_eq_blank _ _ _ (.inr (Nat.le_of_not_lt hy)), overlay_blank]

/-! ## Both ways of drawing -/

theorem draw_eq_overlay (s : State) (sprite : Sprite) :
    s.draw sprite = (s.setFlag false).overlay sprite.mask := by
  change { s with display := s.display.xor sprite.mask }.setFlag (s.display.overlaps sprite.mask) =
    { s.setFlag false with
      display := s.display.xor sprite.mask
      registers := if s.display.overlaps sprite.mask then ((s.setFlag false).setFlag true).registers
        else (s.setFlag false).registers }
  cases s.display.overlaps sprite.mask with
  | true =>
    exact congrArg
      (fun registers => { s with display := s.display.xor sprite.mask, registers := registers })
      (s.registers_setFlag_setFlag false true).symm
  | false => rfl

theorem getMsbD_toBitVec (byte : UInt8) {i : Nat} (hi : i < 8) :
    byte.toBitVec.getMsbD i = byte.toNat.testBit (7 - i) := by
  rw [BitVec.getMsbD_eq_getLsbD, decide_eq_true hi, Bool.true_and]
  rfl

theorem mask_sprite (s : State) (x y : Register) (height : Nat) :
    (s.sprite x y height).mask =
      s.rowsMask ((s.register x).toNat % 64) ((s.register y).toNat % 32) height 0 := by
  refine Display.ext_lit fun x' y' => ?_
  have hx' := x'.isLt
  have hy' := y'.isLt
  rw [Sprite.lit_mask]
  simp only [rowsMask, Display.lit_ofLit, sprite, Fin.le_def, Sprite.visibleRows]
  generalize (s.register x).toNat % 64 = left
  generalize (s.register y).toNat % 32 = top
  by_cases hcolumn : left ≤ x'.val ∧ x'.val - left < 8
  · rw [getMsbD_toBitVec _ hcolumn.2]
    by_cases hrow : y'.val - top < min height (32 - top)
    · rw [Memory.getD_slice _ _ _ _ hrow]
      grind
    · rw [List.getD_eq_getElem?_getD, List.getElem?_eq_none, Option.getD_none]
      · grind
      · rw [Memory.length_slice]
        omega
  · grind

theorem draw_eq_drawByPixels (s : State) (w : Word) :
    s.draw (s.sprite (Word.x w) (Word.y w) (Word.n w)) = s.drawByPixels w := by
  rw [draw_eq_overlay, mask_sprite, drawByPixels, plotRows_eq_overlay]
  rfl

theorem decode_of_group_draw {w : Word} (hw : Word.group w = 0xD) :
    Instruction.decode w = .draw (Word.x w) (Word.y w) (Word.n w) := by
  simp only [Instruction.decode, hw]

/-- A draw instruction has the effect of the loops of the specification, and none if these would
read a row beyond the last byte of memory. -/
theorem execute_draw_eq_drawByPixels (s : State) {w : Word} (hw : Word.group w = 0xD) :
    ((∀ r < (Word.n w).val, (s.register (Word.y w)).toNat % 32 + r < 32 →
        s.index.toNat + r < 4096) →
      s.execute w = { s with
        opcode := w
        display := (s.drawByPixels w).display
        registers := (s.drawByPixels w).registers }) ∧
    ((∃ r < (Word.n w).val, (s.register (Word.y w)).toNat % 32 + r < 32 ∧
        4096 ≤ s.index.toNat + r) →
      s.execute w = { s with opcode := w, fault := some .outOfBounds, pc := s.pc - 2 }) := by
  have hrows := visibleRows_beyond_iff (s.spriteTop (Word.y w)) (Word.n w) s.index.toNat
  rw [execute, decode_of_group_draw hw]
  constructor
  · intro hfits
    have hnone : { s with opcode := w }.obstacle (.draw (Word.x w) (Word.y w) (Word.n w)) =
        none := by
      rw [obstacle, Fault.when_eq_none]
      intro hbeyond
      obtain ⟨r, hr, hscreen, hout⟩ := hrows.1 hbeyond
      exact absurd (hfits r hr hscreen) (Nat.not_lt.2 hout)
    rw [perform_draw hnone, ← draw_eq_drawByPixels]
    rfl
  · intro hbeyond
    have hsome : { s with opcode := w }.obstacle (.draw (Word.x w) (Word.y w) (Word.n w)) =
        some .outOfBounds := by
      rw [obstacle, Fault.when_eq_some]
      exact ⟨hrows.2 hbeyond, rfl⟩
    rw [perform_of_obstacle hsome, halt]

/-- A sprite of fifteen rows near the end of memory, which the bottom of the screen clips to two,
is drawn at the flag register's place. -/
theorem execute_draw_eq_drawByPixels_clipped :
    let s : State :=
      { State.powerOn ⟨0, 0⟩ {} with
        index := 0xFFE
        memory := Memory.blank.store 0xFFE [0xC3, 0x81]
        registers := (State.powerOn ⟨0, 0⟩ {}).registers.set 15 62 }
    s.execute 0xDFFF = { s with
      opcode := 0xDFFF
      display := (s.drawByPixels 0xDFFF).display
      registers := (s.drawByPixels 0xDFFF).registers } :=
  (execute_draw_eq_drawByPixels _ (by decide)).1 (by decide +kernel)

end State

end Chip8
