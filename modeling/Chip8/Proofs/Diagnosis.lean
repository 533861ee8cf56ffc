import Chip8.Proofs.Obstacle
import Mathlib.Tactic.IntervalCases

/-!
# The diagnosis of a fault

Which fault a word deserves can be read off its digits (`State.Deserves`), and this is the fault
that its instruction runs into (`obstacle_decode_iff`).
-/

namespace Chip8

namespace State

/-- A call when all slots of the stack are taken. -/
def Overflows (s : State) (w : Word) : Prop := Word.group w = 0x2 ∧ 16 ≤ s.stack.pointer.toNat

/-- A return when no slot is taken. -/
def Underflows (s : State) (w : Word) : Prop := w = 0x00EE ∧ s.stack.pointer = 0

/-- A transfer of digits or registers, or a sprite with a row on the screen, beyond the last byte
of memory. -/
def LeavesMemory (s : State) (w : Word) : Prop :=
  (Word.group w = 0xF ∧ Word.nn w = 0x33 ∧ 4096 ≤ s.index.toNat + 2) ∨
    (Word.group w = 0xF ∧ (Word.nn w = 0x55 ∨ Word.nn w = 0x65) ∧
      4096 ≤ s.index.toNat + Word.x w) ∨
    (Word.group w = 0xD ∧ ∃ r < (Word.n w).val,
      (s.register (Word.y w)).toNat % 32 + r < 32 ∧ 4096 ≤ s.index.toNat + r)

/-- Whether a word deserves a fault, or none. -/
def Deserves (s : State) (w : Word) : Option Fault → Prop
  | none => ¬ s.Overflows w ∧ ¬ s.Underflows w ∧ ¬ s.LeavesMemory w
  | some .stackOverflow => s.Overflows w
  | some .stackUnderflow => s.Underflows w
  | some .outOfBounds => s.LeavesMemory w
  | some (.unassigned _) => False

/-! ## Sprites -/

/-- The last row of a sprite that is on the screen is past the end of memory if any is. -/
theorem visibleRows_beyond_iff (top : Fin 32) (height index : Nat) :
    (0 < Sprite.visibleRows top height ∧ 4096 < index + Sprite.visibleRows top height) ↔
      ∃ r < height, top.val + r < 32 ∧ 4096 ≤ index + r := by
  unfold Sprite.visibleRows
  constructor
  · rintro ⟨hpos, hbeyond⟩
    exact ⟨min height (32 - top) - 1, by omega, by omega, by omega⟩
  · rintro ⟨r, hr, hscreen, hbeyond⟩
    exact ⟨by omega, by omega⟩

/-! ## One word, one fault -/

theorem not_overflows {s : State} {w : Word} (h : Word.group w ≠ 0x2) : ¬ s.Overflows w :=
  fun hover => h hover.1

theorem not_underflows {s : State} {w : Word} (h : Word.group w ≠ 0x0) : ¬ s.Underflows w := by
  rintro ⟨rfl, -⟩
  exact h (by decide)

theorem not_leavesMemory {s : State} {w : Word} (hF : Word.group w ≠ 0xF)
    (hD : Word.group w ≠ 0xD) : ¬ s.LeavesMemory w := by
  rintro (⟨h, -⟩ | ⟨h, -⟩ | ⟨h, -⟩)
  · exact hF h
  · exact hF h
  · exact hD h

theorem Deserves.unique {s : State} {w : Word} {f g : Option Fault} (hf : s.Deserves w f)
    (hg : s.Deserves w g) : f = g := by
  have hover : s.Overflows w → ¬ s.Underflows w ∧ ¬ s.LeavesMemory w := fun h =>
    ⟨not_underflows (by rw [h.1]; decide),
      not_leavesMemory (by rw [h.1]; decide) (by rw [h.1]; decide)⟩
  have hunder : s.Underflows w → ¬ s.LeavesMemory w := by
    rintro ⟨rfl, -⟩
    exact not_leavesMemory (by decide) (by decide)
  rcases f with _ | _ | _ | _ | code <;> rcases g with _ | _ | _ | _ | code' <;>
    simp only [Deserves] at hf hg <;> tauto

theorem deserves_when {s : State} {w : Word} {f : Fault} {condition : Prop}
    [Decidable condition] (hyes : condition → s.Deserves w (some f))
    (hno : ¬ condition → s.Deserves w none) : s.Deserves w (f.when condition) := by
  unfold Fault.when
  split
  · exact hyes ‹_›
  · exact hno ‹_›

/-! ## The instructions that can be stopped -/

section Groups

variable {s : State} {w : Word}

theorem deserves_ofSystem (hw : Word.group w = 0x0) :
    s.Deserves w (s.obstacle (.ofSystem w)) := by
  have hover : ¬ s.Overflows w := not_overflows (by rw [hw]; decide)
  have hleaves : ¬ s.LeavesMemory w :=
    not_leavesMemory (by rw [hw]; decide) (by rw [hw]; decide)
  have hempty : s.stack.isEmpty = true ↔ s.stack.pointer = 0 := by
    rw [CallStack.isEmpty, beq_iff_eq]
  unfold Instruction.ofSystem
  split
  · next hclear => exact ⟨hover, fun h => absurd (hclear.symm.trans h.1) (by decide), hleaves⟩
  · split
    · next hret =>
      refine deserves_when (fun h => ⟨hret, hempty.1 h⟩) fun h => ⟨hover, ?_, hleaves⟩
      exact fun hunder => h (hempty.2 hunder.2)
    · next hret => exact ⟨hover, fun h => hret h.1, hleaves⟩

theorem deserves_call (hw : Word.group w = 0x2) :
    s.Deserves w (s.obstacle (.call (Word.nnn w))) := by
  have hunder : ¬ s.Underflows w := not_underflows (by rw [hw]; decide)
  have hleaves : ¬ s.LeavesMemory w :=
    not_leavesMemory (by rw [hw]; decide) (by rw [hw]; decide)
  have hfull : s.stack.isFull = true ↔ 16 ≤ s.stack.pointer.toNat := by
    rw [CallStack.isFull, decide_eq_true_iff, UInt8.le_iff_toNat_le]
    rfl
  exact deserves_when (fun h => ⟨hw, hfull.1 h⟩) fun h =>
    ⟨fun hover => h (hfull.2 hover.2), hunder, hleaves⟩

theorem deserves_draw (hw : Word.group w = 0xD) :
    s.Deserves w (s.obstacle (.draw (Word.x w) (Word.y w) (Word.n w))) := by
  have hover : ¬ s.Overflows w := not_overflows (by rw [hw]; decide)
  have hunder : ¬ s.Underflows w := not_underflows (by rw [hw]; decide)
  have hrows := visibleRows_beyond_iff (s.spriteTop (Word.y w)) (Word.n w) s.index.toNat
  refine deserves_when (fun h => .inr (.inr ⟨hw, hrows.1 h⟩)) fun h => ⟨hover, hunder, ?_⟩
  rintro (⟨hF, -⟩ | ⟨hF, -⟩ | ⟨-, hbeyond⟩)
  · rw [hw] at hF
    cases hF
  · rw [hw] at hF
    cases hF
  · exact h (hrows.2 hbeyond)

theorem leavesMemory_ofDevices_iff (hw : Word.group w = 0xF) :
    s.LeavesMemory w ↔
      ((Word.nn w).toNat = 0x33 ∧ 4096 ≤ s.index.toNat + 2) ∨
        (((Word.nn w).toNat = 0x55 ∨ (Word.nn w).toNat = 0x65) ∧
          4096 ≤ s.index.toNat + Word.x w) := by
  have hnn : ∀ byte : UInt8, Word.nn w = byte ↔ (Word.nn w).toNat = byte.toNat :=
    fun byte => UInt8.toNat_inj.symm
  unfold LeavesMemory
  rw [hw, hnn, hnn, hnn]
  constructor
  · rintro (⟨-, h33, hbeyond⟩ | ⟨-, h55, hbeyond⟩ | ⟨h, -⟩)
    · exact .inl ⟨h33, hbeyond⟩
    · exact .inr ⟨h55, hbeyond⟩
    · cases h
  · rintro (⟨h33, hbeyond⟩ | ⟨h55, hbeyond⟩)
    · exact .inl ⟨rfl, h33, hbeyond⟩
    · exact .inr (.inl ⟨rfl, h55, hbeyond⟩)

theorem deserves_ofDevices (hw : Word.group w = 0xF) :
    s.Deserves w (s.obstacle (.ofDevices w)) := by
  have hover : ¬ s.Overflows w := not_overflows (by rw [hw]; decide)
  have hunder : ¬ s.Underflows w := not_underflows (by rw [hw]; decide)
  have hleaves := leavesMemory_ofDevices_iff (s := s) hw
  have hnone : (Word.nn w).toNat ≠ 0x33 → (Word.nn w).toNat ≠ 0x55 →
      (Word.nn w).toNat ≠ 0x65 → s.Deserves w none := by
    intro h33 h55 h65
    refine ⟨hover, hunder, fun h => ?_⟩
    rcases hleaves.1 h with ⟨h, -⟩ | ⟨h | h, -⟩
    · exact h33 h
    · exact h55 h
    · exact h65 h
  -- A transfer up to a last offset leaves memory just when that offset does.
  have htransfer : ∀ last, (s.LeavesMemory w ↔ 4096 ≤ s.index.toNat + last) →
      s.Deserves w (Fault.outOfBounds.when (Memory.size ≤ s.index.toNat + last)) :=
    fun last hlast => deserves_when hlast.2 fun hfits =>
      ⟨hover, hunder, fun h => hfits (hlast.1 h)⟩
  unfold Instruction.ofDevices
  split
  case h_7 h33 => exact htransfer 2 (hleaves.trans (by omega))
  case h_8 h55 => exact htransfer _ (hleaves.trans (by omega))
  case h_9 h65 => exact htransfer _ (hleaves.trans (by omega))
  all_goals exact hnone (by omega) (by omega) (by omega)

end Groups

/-- What a word deserves is the fault that its instruction runs into. -/
theorem obstacle_decode_iff (s : State) (w : Word) (f : Option Fault) :
    s.obstacle (.decode w) = f ↔ s.Deserves w f := by
  suffices h : s.Deserves w (s.obstacle (.decode w)) from
    ⟨fun hf => hf ▸ h, fun hf => h.unique hf⟩
  have hlt := Word.group_lt w
  simp only [Instruction.decode]
  interval_cases h : Word.group w
  case «0» => exact deserves_ofSystem h
  case «2» => exact deserves_call h
  case «13» => exact deserves_draw h
  case «15» => exact deserves_ofDevices h
  all_goals
    have hdeserves : s.Deserves w none := ⟨not_overflows (by rw [h]; decide),
      not_underflows (by rw [h]; decide), not_leavesMemory (by rw [h]; decide) (by rw [h]; decide)⟩
    try exact hdeserves
  case «5» | «9» =>
    change s.Deserves w (s.obstacle (if (Word.n w).val = 0 then _ else _))
    split
    · exact hdeserves
    · exact hdeserves
  case «8» =>
    change s.Deserves w (s.obstacle (.ofArithmetic w))
    unfold Instruction.ofArithmetic
    split
    · exact hdeserves
    · exact hdeserves
  case «14» =>
    change s.Deserves w (s.obstacle (.ofKeys w))
    unfold Instruction.ofKeys
    split
    · exact hdeserves
    · exact hdeserves
    · exact hdeserves

end State

end Chip8
