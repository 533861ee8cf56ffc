import Chip8.Proofs.Drawing
import Mathlib.Data.Finset.SymmDiff
import Mathlib.Data.Fintype.Prod
import Mathlib.Data.List.GetD

/-!
# Sprites as sets of pixels

A draw instruction turns the pixels of its sprite over: the lit pixels become their symmetric
difference with the covered ones (`State.pixels_execute_of_draw`), and the flag says whether the two
sets meet.  What a sprite covers depends on neither the display nor the flag, which are all that a
draw changes (`State.DrawsSprite.sameSprite_execute`).  Hence a second draw undoes the first and two
draws commute (`State.draws_toggle`).
-/

namespace Chip8

open scoped symmDiff

/-- A place on the screen, by column and row. -/
abbrev Pixel := Fin 64 × Fin 32

/-! ## Sets of pixels -/

theorem card_symmDiff (a b : Finset Pixel) :
    ((a ∆ b).card : Int) = a.card + b.card - 2 * (b ∩ a).card := by
  have ha := Finset.card_sdiff_add_card_inter a b
  have hb := Finset.card_sdiff_add_card_inter b a
  have hunion : (a ∆ b).card = (a \ b).card + (b \ a).card :=
    Finset.card_union_of_disjoint disjoint_sdiff_sdiff
  rw [Finset.inter_comm] at ha
  omega

theorem inter_symmDiff_self (a b : Finset Pixel) : b ∩ (a ∆ b) = b \ a := by
  ext p
  simp only [Finset.mem_inter, Finset.mem_symmDiff, Finset.mem_sdiff]
  tauto

namespace Display

/-- The pixels that are lit. -/
def pixels (d : Display) : Finset Pixel := {p | d.lit p.1 p.2 = true}

theorem mem_pixels {d : Display} {p : Pixel} : p ∈ d.pixels ↔ d.lit p.1 p.2 = true := by
  simp only [pixels, Finset.mem_filter, Finset.mem_univ, true_and]

theorem pixels_injective : Function.Injective pixels := by
  intro d e h
  refine ext_lit fun x y => Bool.eq_iff_iff.2 ?_
  rw [← mem_pixels (p := (x, y)), h, mem_pixels]

theorem pixels_xor (d e : Display) : (d.xor e).pixels = d.pixels ∆ e.pixels := by
  ext p
  rw [Finset.mem_symmDiff, mem_pixels, mem_pixels, mem_pixels, lit_xor]
  cases d.lit p.1 p.2 <;> cases e.lit p.1 p.2 <;> decide

theorem overlaps_iff_inter {d e : Display} :
    d.overlaps e = true ↔ (e.pixels ∩ d.pixels).Nonempty := by
  rw [overlaps_iff]
  simp only [Finset.Nonempty, Finset.mem_inter, mem_pixels, Prod.exists, and_comm]

end Display

namespace Sprite

/-- The set bits of rows of eight pixels that are on the screen when the first of them is placed at
a column and a row. -/
def covered (left top : Nat) (rows : List UInt8) : Finset Pixel :=
  {p | ∃ r : Fin rows.length, ∃ c : Fin 8,
    p.1.val = left + c ∧ p.2.val = top + r ∧ rows[r].toNat.testBit (7 - c) = true}

theorem mem_covered {left top : Nat} {rows : List UInt8} {p : Pixel} :
    p ∈ covered left top rows ↔
      (left ≤ p.1.val ∧ p.1.val < left + 8) ∧ (top ≤ p.2.val ∧ p.2.val < top + rows.length) ∧
        (rows.getD (p.2 - top) 0).toNat.testBit (7 - (p.1 - left)) = true := by
  simp only [covered, Finset.mem_filter, Finset.mem_univ, true_and]
  constructor
  · rintro ⟨r, c, hx, hy, hbit⟩
    have hr := r.isLt
    have hc := c.isLt
    refine ⟨by omega, by omega, ?_⟩
    rw [hx, hy, Nat.add_sub_cancel_left, Nat.add_sub_cancel_left, List.getD_eq_getElem _ _ hr]
    exact hbit
  · rintro ⟨⟨hleft, hright⟩, ⟨htop, hbottom⟩, hbit⟩
    rw [List.getD_eq_getElem _ _ (by omega)] at hbit
    exact ⟨⟨p.2 - top, by omega⟩, ⟨p.1 - left, by omega⟩, (Nat.add_sub_cancel' hleft).symm,
      (Nat.add_sub_cancel' htop).symm, hbit⟩

end Sprite

namespace State

/-- The pixels on the screen that the sprite of a draw word covers. -/
def covered (s : State) (w : Word) : Finset Pixel :=
  Sprite.covered ((s.register (Word.x w)).toNat % 64) ((s.register (Word.y w)).toNat % 32)
    (s.memory.slice s.index.toNat (Word.n w))

theorem pixels_mask_sprite (s : State) (w : Word) :
    (s.sprite (Word.x w) (Word.y w) (Word.n w)).mask.pixels = s.covered w := by
  ext p
  rw [Display.mem_pixels, mask_sprite, covered, Sprite.mem_covered, Memory.length_slice]
  simp only [rowsMask, Display.lit_ofLit, Bool.and_eq_true, decide_eq_true_eq, Nat.add_zero]
  generalize (s.register (Word.x w)).toNat % 64 = left
  generalize (s.register (Word.y w)).toNat % 32 = top
  rw [and_comm (a := top ≤ p.2.val ∧ _), and_assoc]
  refine and_congr_right fun _ => and_congr_right fun hrow => ?_
  rw [Memory.getD_slice _ _ _ _ (by omega)]

/-! ## A draw -/

/-- A word draws a sprite, from no register that the draw itself writes, and raises no fault. -/
structure DrawsSprite (s : State) (w : Word) : Prop where
  group : Word.group w = 0xD
  x_ne : Word.x w ≠ flagRegister
  y_ne : Word.y w ≠ flagRegister
  fault : ({ s with fault := none }.execute w).fault = none

/-- Two states have the same sprite for a draw word, at the same place. -/
structure SameSprite (s t : State) (w : Word) : Prop where
  memory : t.memory = s.memory
  index : t.index = s.index
  x : t.register (Word.x w) = s.register (Word.x w)
  y : t.register (Word.y w) = s.register (Word.y w)

section

variable {s t : State} {w v : Word}

theorem fault_execute_of_running (s : State) (w : Word) :
    ({ s with fault := none }.execute w).fault = s.obstacle (.decode w) := by
  have hsame : { s with fault := none, opcode := w }.obstacle (.decode w) =
      s.obstacle (.decode w) := obstacle_congr rfl rfl rfl _
  rw [execute]
  cases hobstacle : s.obstacle (.decode w) with
  | none => rw [fault_perform (hsame.trans hobstacle)]
  | some f =>
    rw [perform_of_obstacle (hsame.trans hobstacle)]
    rfl

theorem execute_of_draw (hw : Word.group w = 0xD) (h : s.obstacle (.decode w) = none) :
    s.execute w =
      { s with opcode := w }.draw (s.sprite (Word.x w) (Word.y w) (Word.n w)) := by
  have hsame : { s with opcode := w }.obstacle (.decode w) = none :=
    (obstacle_congr rfl rfl rfl _).trans h
  rw [decode_of_group_draw hw] at hsame
  rw [execute, decode_of_group_draw hw, perform_draw hsame]
  rfl

theorem pixels_execute_of_draw (hw : Word.group w = 0xD) (h : s.obstacle (.decode w) = none) :
    (s.execute w).display.pixels = s.display.pixels ∆ s.covered w := by
  rw [execute_of_draw hw h, ← pixels_mask_sprite, ← Display.pixels_xor]
  rfl

theorem DrawsSprite.obstacle_eq_none (h : s.DrawsSprite w) : s.obstacle (.decode w) = none :=
  (s.fault_execute_of_running w).symm.trans h.fault

theorem DrawsSprite.pixels_execute (h : s.DrawsSprite w) :
    (s.execute w).display.pixels = s.display.pixels ∆ s.covered w :=
  pixels_execute_of_draw h.group h.obstacle_eq_none

theorem DrawsSprite.flag_execute (h : s.DrawsSprite w) :
    (s.execute w).register flagRegister =
      if (s.covered w ∩ s.display.pixels).Nonempty then 1 else 0 := by
  rw [execute_of_draw h.group h.obstacle_eq_none, draw, setFlag, register_setRegister, if_pos rfl,
    ← pixels_mask_sprite]
  simp only [Display.overlaps_iff_inter]

/-- A draw keeps what another draw reads. -/
theorem DrawsSprite.sameSprite_execute (h : s.DrawsSprite w) (hx : Word.x v ≠ flagRegister)
    (hy : Word.y v ≠ flagRegister) : s.SameSprite (s.execute w) v := by
  rw [execute_of_draw h.group h.obstacle_eq_none]
  have hregister : ∀ r, r ≠ flagRegister →
      ({ s with opcode := w }.draw (s.sprite (Word.x w) (Word.y w) (Word.n w))).register r =
        s.register r := fun r hr => by
    rw [draw, setFlag, register_setRegister, if_neg (Ne.symm hr)]
    rfl
  exact ⟨rfl, rfl, hregister _ hx, hregister _ hy⟩

theorem SameSprite.covered_eq (h : s.SameSprite t w) : t.covered w = s.covered w := by
  rw [covered, h.memory, h.index, h.x, h.y, covered]

theorem SameSprite.draws (h : s.SameSprite t w) (hw : s.DrawsSprite w) : t.DrawsSprite w := by
  have htop : t.spriteTop (Word.y w) = s.spriteTop (Word.y w) := by
    rw [spriteTop, h.y, spriteTop]
  have hnone := hw.obstacle_eq_none
  rw [decode_of_group_draw hw.group] at hnone
  refine ⟨hw.group, hw.x_ne, hw.y_ne, ?_⟩
  rw [fault_execute_of_running, decode_of_group_draw hw.group, ← hnone]
  simp only [obstacle, htop, h.index]

/-! ## Two draws -/

/-- Drawing again restores the display. -/
theorem DrawsSprite.display_execute_execute (h : s.DrawsSprite w) :
    ((s.execute w).execute w).display = s.display := by
  have hsame := h.sameSprite_execute h.x_ne h.y_ne
  apply Display.pixels_injective
  rw [(hsame.draws h).pixels_execute, hsame.covered_eq, h.pixels_execute,
    symmDiff_symmDiff_cancel_right]

theorem DrawsSprite.flag_execute_execute (h : s.DrawsSprite w) :
    ((s.execute w).execute w).register flagRegister =
      if (s.covered w \ s.display.pixels).Nonempty then 1 else 0 := by
  have hsame := h.sameSprite_execute h.x_ne h.y_ne
  rw [(hsame.draws h).flag_execute, hsame.covered_eq, h.pixels_execute, inter_symmDiff_self]

theorem DrawsSprite.flag_eq_zero (h : s.DrawsSprite w)
    (hlit : Disjoint (s.covered w) s.display.pixels) :
    (s.execute w).register flagRegister = 0 := by
  rw [h.flag_execute, if_neg]
  rwa [Finset.not_nonempty_iff_eq_empty, ← Finset.disjoint_iff_inter_eq_empty]

section

-- One word is drawn in `s` and the other in `t` after it, or the other in `t'` and the one in `s'`
-- after that.
variable {s' t' : State} (hw : s.DrawsSprite w) (hv : t'.DrawsSprite v) (hs : s.SameSprite s' w)
  (ht : t'.SameSprite t v) (hst : t.display = (s.execute w).display)
  (hstart : t'.display = s.display) (hback : s'.display = (t'.execute v).display)

include hw hv hs ht hst hstart hback in
/-- Two draws end with the same display in either order, whatever happens between them that leaves
the display and the sprites alone. -/
theorem display_execute_comm : (t.execute v).display = (s'.execute w).display := by
  apply Display.pixels_injective
  calc (t.execute v).display.pixels
      = (s.display.pixels ∆ s.covered w) ∆ t'.covered v := by
        rw [(ht.draws hv).pixels_execute, hst, hw.pixels_execute, ht.covered_eq]
    _ = (s.display.pixels ∆ t'.covered v) ∆ s.covered w := symmDiff_right_comm _ _ _
    _ = (s'.execute w).display.pixels := by
        rw [(hs.draws hw).pixels_execute, hback, hv.pixels_execute, hstart, hs.covered_eq]

include hw hv ht hst in
/-- A draw that meets neither the lit pixels nor those of the draw before it. -/
theorem flag_eq_zero_of_disjoint (hwv : Disjoint (s.covered w) (t'.covered v))
    (hlit : Disjoint (t'.covered v) s.display.pixels) :
    (t.execute v).register flagRegister = 0 := by
  apply (ht.draws hv).flag_eq_zero
  rw [hst, hw.pixels_execute, ht.covered_eq]
  exact (disjoint_sup_right.2 ⟨hlit, hwv.symm⟩).mono_right symmDiff_le_sup

end

end

/-- A draw word with the index and the registers that a program sets for it. -/
structure Drawing where
  index : UInt16
  registers : Vector UInt8 16
  word : Word

/-- The state that is set up for a drawing. -/
def setUp (s : State) (d : Drawing) : State :=
  { s with index := d.index, registers := d.registers }

/-- Set up a drawing and draw it. -/
def drawing (s : State) (d : Drawing) : State := (s.setUp d).execute d.word

/-- What a drawing is set up with does not depend on the draws before it. -/
theorem sameSprite_setUp_drawing {s : State} {d : Drawing} (hd : (s.setUp d).DrawsSprite d.word)
    (e : Drawing) : (s.setUp e).SameSprite ((s.drawing d).setUp e) e.word := by
  refine ⟨?_, rfl, rfl, rfl⟩
  exact (hd.sameSprite_execute hd.x_ne hd.y_ne).memory

/-- A draw turns the pixels of its sprite over and its flag says whether one of them was lit.  So
drawing again restores the display, and two draws, with the state they find or each set up anew, end
with the same display in either order. -/
theorem draws_toggle (s : State) :
    (∀ w, s.DrawsSprite w →
      (s.execute w).display.pixels = s.display.pixels ∆ s.covered w ∧
      ((s.execute w).display.pixels.card : Int) =
        s.display.pixels.card + (s.covered w).card - 2 * (s.covered w ∩ s.display.pixels).card ∧
      (s.execute w).register flagRegister =
        (if (s.covered w ∩ s.display.pixels).Nonempty then 1 else 0) ∧
      (s.execute w).DrawsSprite w ∧
      ((s.execute w).execute w).display = s.display ∧
      ((s.execute w).execute w).register flagRegister =
        if (s.covered w \ s.display.pixels).Nonempty then 1 else 0) ∧
    (∀ w v, s.DrawsSprite w → s.DrawsSprite v →
      (s.execute w).DrawsSprite v ∧
      ((s.execute w).execute v).display = ((s.execute v).execute w).display ∧
      (Disjoint (s.covered w) (s.covered v) → Disjoint (s.covered w) s.display.pixels →
        Disjoint (s.covered v) s.display.pixels →
          (s.execute w).register flagRegister = 0 ∧
            ((s.execute w).execute v).register flagRegister = 0)) ∧
    ∀ d e : Drawing, (s.setUp d).DrawsSprite d.word → (s.setUp e).DrawsSprite e.word →
      ((s.drawing d).setUp e).DrawsSprite e.word ∧
      ((s.drawing d).drawing e).display = ((s.drawing e).drawing d).display ∧
      (Disjoint ((s.setUp d).covered d.word) ((s.setUp e).covered e.word) →
        Disjoint ((s.setUp d).covered d.word) s.display.pixels →
        Disjoint ((s.setUp e).covered e.word) s.display.pixels →
          (s.drawing d).register flagRegister = 0 ∧
            ((s.drawing d).drawing e).register flagRegister = 0) := by
  refine ⟨fun w hw => ?_, fun w v hw hv => ?_, fun d e hd he => ?_⟩
  · refine ⟨hw.pixels_execute, ?_, hw.flag_execute, ?_, hw.display_execute_execute,
      hw.flag_execute_execute⟩
    · rw [hw.pixels_execute, card_symmDiff]
    · exact (hw.sameSprite_execute hw.x_ne hw.y_ne).draws hw
  · have hsv := hw.sameSprite_execute hv.x_ne hv.y_ne
    have hsw := hv.sameSprite_execute hw.x_ne hw.y_ne
    exact ⟨hsv.draws hv, display_execute_comm hw hv hsw hsv rfl rfl rfl,
      fun hwv hlit hlit' => ⟨hw.flag_eq_zero hlit,
        flag_eq_zero_of_disjoint hw hv hsv rfl hwv hlit'⟩⟩
  · have hse := sameSprite_setUp_drawing hd e
    have hsd := sameSprite_setUp_drawing he d
    exact ⟨hse.draws he, display_execute_comm hd he hsd hse rfl rfl rfl,
      fun hde hlit hlit' => ⟨hd.flag_eq_zero hlit,
        flag_eq_zero_of_disjoint hd he hse rfl hde hlit'⟩⟩

/-- A glyph that the lower right corner clips to two rows of two pixels, and one in another place.
They are drawn with one set-up, and with an index and registers of their own. -/
theorem draws_toggle_corner :
    let s : State :=
      { powerOn ⟨0, 0⟩ {} with
        index := 0x050
        registers := ((Vector.replicate 16 0).set 1 62).set 2 30 }
    let d : Drawing := ⟨0x050, s.registers, 0xD125⟩
    let e : Drawing := ⟨0x055, Vector.replicate 16 61, 0xD345⟩
    ((s.execute 0xD125).execute 0xD125).display = s.display ∧
      ((s.execute 0xD125).execute 0xD215).display = ((s.execute 0xD215).execute 0xD125).display ∧
      ((s.execute 0xD125).execute 0xD215).register flagRegister = 0 ∧
      ((s.drawing d).drawing e).display = ((s.drawing e).drawing d).display := by
  intro s d e
  obtain ⟨hone, htwo, hsetUp⟩ := draws_toggle s
  have hw : s.DrawsSprite 0xD125 := ⟨by decide, by decide, by decide, by decide +kernel⟩
  have hv : s.DrawsSprite 0xD215 := ⟨by decide, by decide, by decide, by decide +kernel⟩
  have he : (s.setUp e).DrawsSprite 0xD345 := ⟨by decide, by decide, by decide, by decide +kernel⟩
  obtain ⟨-, -, -, -, hagain, -⟩ := hone 0xD125 hw
  obtain ⟨-, hcomm, hflags⟩ := htwo 0xD125 0xD215 hw hv
  obtain ⟨-, hcomm', -⟩ := hsetUp d e hw he
  have hdark : s.display.pixels = ∅ := by
    simp [Finset.eq_empty_iff_forall_notMem, Display.mem_pixels, s, powerOn]
  have hplaces : Disjoint (s.covered 0xD125) (s.covered 0xD215) := by
    have hleft : (s.register (Word.x 0xD125)).toNat % 64 = 62 := by decide
    have hleft' : (s.register (Word.x 0xD215)).toNat % 64 = 30 := by decide
    simp only [Finset.disjoint_left, covered, Sprite.mem_covered, hleft, hleft']
    omega
  have hflag := hflags hplaces (hdark ▸ Finset.disjoint_empty_right _)
    (hdark ▸ Finset.disjoint_empty_right _)
  exact ⟨hagain, hcomm, hflag.2, hcomm'⟩

end State

end Chip8
