import Chip8.Proofs.Writes

/-!
# The dispatch of words

Every word has the digits of one instruction and of no other, so what a word is read as can be told
from its digits alone (`Instruction.decode_eq_iff`).  The words that are left over are exactly those
that executing records as undefined (`State.undefined_recorded_iff`): a slot of a table that is
missing, or one too many, would show there.
-/

namespace Chip8

namespace Instruction

variable {w : Word} {i : Instruction}

/-! ## The instruction of a word -/

theorem decode_of_hasForm (h : i.HasForm w) : decode w = i := by
  cases i with
  | clear | ret =>
    cases h
    decide
  | hostRoutine a =>
    obtain ⟨hgroup, hclear, hret, rfl⟩ := h
    simp only [decode, hgroup, ofSystem, if_neg hclear, if_neg hret]
  | jump a | call a | setIndex a | jumpOffset a =>
    obtain ⟨hgroup, rfl⟩ := h
    simp only [decode, hgroup]
  | skipIfByte r b | skipUnlessByte r b | setByte r b | addByte r b | random r b =>
    obtain ⟨hgroup, rfl, rfl⟩ := h
    simp only [decode, hgroup]
  | skipIfEqual r q | skipUnlessEqual r q =>
    obtain ⟨hgroup, hn, rfl, rfl⟩ := h
    simp only [decode, hgroup, hn, if_true]
  | draw r q height =>
    obtain ⟨hgroup, rfl, rfl, rfl⟩ := h
    simp only [decode, hgroup]
  | arithmetic operation r q =>
    obtain ⟨hgroup, hdigit, rfl, rfl⟩ := h
    simp only [decode, hgroup, ofArithmetic, hdigit]
  | skipIfDown r | skipIfUp r =>
    obtain ⟨hgroup, hnn, rfl⟩ := h
    simp only [decode, hgroup, ofKeys, hnn]
    rfl
  | readDelay r | awaitKey r | setDelay r | setSound r | addIndex r | glyph r | storeDecimal r
  | storeRegisters r | loadRegisters r =>
    obtain ⟨hgroup, hnn, rfl⟩ := h
    rw [decode_of_group_devices hgroup, ofDevices, hnn]
    rfl
  | undefined v => exact (decode_eq_undefined_iff w v).2 h

/-- A word is read as an instruction just when it has its digits. -/
theorem decode_eq_iff : decode w = i ↔ i.HasForm w := by
  constructor
  · rintro rfl
    exact hasForm_decode w
  · exact decode_of_hasForm

end Instruction

namespace State

variable {s : State} {w : Word} {i : Instruction}

theorem execute_of_hasForm (h : i.HasForm w) :
    s.execute w = { s with opcode := w }.perform i := by
  rw [execute, Instruction.decode_of_hasForm h]

/-! ## Undefined words -/

theorem execute_of_undefined (hw : Word.IsUndefined w) :
    s.execute w = { s with
      opcode := w
      undefinedCount := s.undefinedCount + 1
      lastUndefined := w } :=
  execute_of_hasForm (i := .undefined w) ⟨rfl, hw⟩

theorem sameAt_execute {part : Part} (h : ¬ Word.Writes w part) :
    s.SameAt (s.execute w) part := by
  have hperform : { s with opcode := w }.SameAt (s.execute w) part := by
    apply sameAt_perform
    intro hwrites
    exact h (writes_of_hasForm (Instruction.hasForm_decode w) hwrites)
  exact (s.sameAt_control s.pc w s.fault).trans hperform

theorem record_execute_of_defined (hw : ¬ Word.IsUndefined w) :
    (s.execute w).undefinedCount = s.undefinedCount ∧
      (s.execute w).lastUndefined = s.lastUndefined := by
  have hcount : s.SameAt (s.execute w) .undefinedCount := sameAt_execute hw
  have hlast : s.SameAt (s.execute w) .lastUndefined := sameAt_execute hw
  exact ⟨hcount, hlast⟩

theorem execute_hostRoutine (hgroup : Word.group w = 0x0) (hclear : w ≠ 0x00E0)
    (hret : w ≠ 0x00EE) : s.execute w = { s with opcode := w } :=
  execute_of_hasForm (i := .hostRoutine (Word.nnn w)) ⟨hgroup, hclear, hret, rfl⟩

/-- The words outside the documented set are counted and kept, and do nothing else.  The other
words leave the record alone, and a routine of the host processor leaves everything alone. -/
theorem undefined_recorded_iff (s : State) (w : Word) :
    ((s.execute w).undefinedCount = s.undefinedCount + 1 ∧ (s.execute w).lastUndefined = w ↔
      Word.IsUndefined w) ∧
    (Word.IsUndefined w → s.execute w = { s with
      opcode := w
      undefinedCount := s.undefinedCount + 1
      lastUndefined := w }) ∧
    (¬ Word.IsUndefined w → (s.execute w).undefinedCount = s.undefinedCount ∧
      (s.execute w).lastUndefined = s.lastUndefined) ∧
    (Word.group w = 0x0 → w ≠ 0x00E0 → w ≠ 0x00EE → s.execute w = { s with opcode := w }) := by
  refine ⟨⟨?_, ?_⟩, execute_of_undefined, record_execute_of_defined, execute_hostRoutine⟩
  · rintro ⟨hcount, -⟩
    by_contra hw
    rw [(record_execute_of_defined hw).1, UInt32.left_eq_add] at hcount
    cases hcount
  · intro hw
    rw [execute_of_undefined hw]
    exact ⟨rfl, rfl⟩

/-- The word behind the last sum is undefined, and counting it makes the largest count zero. -/
theorem undefined_recorded_iff_wrap :
    let s : State := { powerOn ⟨0, 0⟩ {} with undefinedCount := 0xFFFFFFFF }
    Word.IsUndefined 0x8128 ∧ (s.execute 0x8128).undefinedCount = 0 ∧
      s.execute 0x8128 = { s with
        opcode := 0x8128
        undefinedCount := 0
        lastUndefined := 0x8128 } ∧
      ¬ Word.IsUndefined 0x8127 ∧ (s.execute 0x8127).undefinedCount = 0xFFFFFFFF ∧
      s.execute 0x00EF = { s with opcode := 0x00EF } := by
  intro s
  have hw : Word.IsUndefined 0x8128 := by decide
  have hv : ¬ Word.IsUndefined 0x8127 := by decide
  have hwrap : s.undefinedCount + 1 = 0 := by decide
  obtain ⟨hiff, hundefined, -, -⟩ := undefined_recorded_iff s 0x8128
  obtain ⟨-, -, hdefined, -⟩ := undefined_recorded_iff s 0x8127
  obtain ⟨-, -, -, hroutine⟩ := undefined_recorded_iff s 0x00EF
  rw [hwrap] at hiff hundefined
  exact ⟨hw, (hiff.2 hw).1, hundefined hw, hv, (hdefined hv).1,
    hroutine (by decide) (by decide) (by decide)⟩

end State

end Chip8
