import Chip8.Proofs.Context
import Chip8.Proofs.Writes

/-!
# Runs in two dialects

The dialect selects the operand of a shift and the register of a jump with offset, and where both
candidates have the same value there is nothing to select.  Machines that differ in the dialect
alone therefore run alike for as long as every shift and every jump with offset is such a one
(`dialects_agree`).
-/

namespace Chip8

theorem Arithmetic.digit_of_isShift {d : Nat} {operation : Arithmetic}
    (h : ofDigit? d = some operation) (hshift : operation.isShift = true) : d ∈ [0x6, 0xE] := by
  unfold ofDigit? at h
  split at h
  all_goals cases h
  all_goals
    first
    | decide
    | cases hshift

theorem Word.leadingDigit_nnn (w : Word) : (nnn w).leadingDigit = x w := by
  apply Fin.ext
  simp only [nnn, Address.leadingDigit, x]
  omega

namespace State

/-- Where the next word shifts or jumps with offset, the dialects select the same value. -/
def Indifferent (s : State) : Prop :=
  s.fault = none →
    (Word.group s.nextWord = 0x8 → (Word.n s.nextWord).val ∈ [0x6, 0xE] →
      s.register (Word.x s.nextWord) = s.register (Word.y s.nextWord)) ∧
    (Word.group s.nextWord = 0xB → s.register (Word.x s.nextWord) = s.register 0)

instance (s : State) : Decidable s.Indifferent := inferInstanceAs (Decidable (_ → _ ∧ _))

theorem overlooks_dialect {s : State} (d : Dialect) {i : Instruction} (h : s.Indifferent)
    (hi : s.upcoming? = some i) : s.Overlooks (fun c => { c with dialect := d }) i := by
  obtain ⟨hs, hform⟩ := hasForm_of_upcoming hi
  obtain ⟨hshifts, hjumps⟩ := h hs
  cases i with
  | arithmetic operation x y =>
    intro hshift
    obtain ⟨hgroup, hdigit, rfl, rfl⟩ := hform
    exact .inr (hshifts hgroup (Arithmetic.digit_of_isShift hdigit hshift))
  | jumpOffset base =>
    obtain ⟨hgroup, rfl⟩ := hform
    have hregister := hjumps hgroup
    rw [← Word.leadingDigit_nnn] at hregister
    exact .inr hregister
  | readDelay | setDelay | setSound | skipIfDown | skipIfUp => exact rfl
  | awaitKey => exact ⟨rfl, rfl, rfl⟩
  | _ => trivial

theorem cycles_dialect {s : State} {n : Nat} (h : ∀ k < n, (s.cycles k).Indifferent)
    (d : Dialect) : { s with dialect := d }.cycles n = { s.cycles n with dialect := d } := by
  refine cycles_revise (f := fun c => { c with dialect := d }) fun k hk i hi => ?_
  exact overlooks_dialect d (h k hk) hi

/-- Two machines that differ in the dialect alone still do so after a run in which every shift and
every jump with offset is indifferent to it, and each has kept its dialect. -/
theorem dialects_agree (s t : State) (hst : t = { s with dialect := t.dialect }) (n : Nat)
    (h : ∀ k < n, (s.cycles k).Indifferent) :
    t.cycles n = { s.cycles n with dialect := t.dialect } ∧
      (s.cycles n).dialect = s.dialect ∧ (t.cycles n).dialect = t.dialect := by
  have hrun : t.cycles n = { s.cycles n with dialect := t.dialect } := by
    rw [hst]
    exact cycles_dialect h t.dialect
  have hself : s.cycles n = { s.cycles n with dialect := s.dialect } :=
    cycles_dialect h s.dialect
  refine ⟨hrun, ?_, ?_⟩
  · rw [hself]
  · rw [hrun]

/-- A register is shifted into itself, a jump with offset finds two in both registers, and the
undefined word that it leads to is the last of the run. -/
theorem dialects_agree_jump :
    let s : State :=
      { powerOn ⟨0, 0⟩ {} with
        memory := Memory.blank.store 0x200
          [0x60, 0x04, 0x62, 0x02, 0x80, 0x06, 0xB2, 0x08, 0x80, 0x26, 0x80, 0x0F] }
    let t : State := { s with dialect := { shiftsSecond := false, jumpsByDigit := true } }
    t = { s with dialect := t.dialect } ∧ (∀ k < 5, (s.cycles k).Indifferent) ∧
      (s.cycles 5).lastUndefined = 0x800F ∧ t.dialect ≠ s.dialect ∧
      t.cycles 5 = { s.cycles 5 with dialect := t.dialect } ∧
      (s.cycles 5).dialect = s.dialect ∧ (t.cycles 5).dialect = t.dialect := by
  intro s t
  have heval : (∀ k < 5, (s.cycles k).Indifferent) ∧ (s.cycles 5).lastUndefined = 0x800F := by
    decide +kernel
  have hdialects : t.dialect ≠ s.dialect := by decide
  exact ⟨rfl, heval.1, heval.2, hdialects, dialects_agree s t rfl 5 heval.1⟩

end State

end Chip8
