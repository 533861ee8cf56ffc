import Chip8.Proofs.Footprint
import Chip8.Proofs.Undefined

/-!
# What a word writes

`Word.Writes` is the table of the parts that a word may write, by its digits.  It covers the
footprint of the instruction that the word stands for (`writes_of_hasForm`, from the digits of every
instruction in `hasForm_decode`), so a cycle changes nothing else (`cycle_writes_documented`).
-/

namespace Chip8

/-! ## The digits of an instruction -/

namespace Instruction

open Word in
/-- A word has the digits of an instruction. -/
def HasForm (w : Word) : Instruction → Prop
  | .clear => w = 0x00E0
  | .ret => w = 0x00EE
  | .hostRoutine a => group w = 0x0 ∧ w ≠ 0x00E0 ∧ w ≠ 0x00EE ∧ a = nnn w
  | .jump a => group w = 0x1 ∧ a = nnn w
  | .call a => group w = 0x2 ∧ a = nnn w
  | .skipIfByte r b => group w = 0x3 ∧ r = x w ∧ b = nn w
  | .skipUnlessByte r b => group w = 0x4 ∧ r = x w ∧ b = nn w
  | .skipIfEqual r q => group w = 0x5 ∧ (n w).val = 0x0 ∧ r = x w ∧ q = y w
  | .setByte r b => group w = 0x6 ∧ r = x w ∧ b = nn w
  | .addByte r b => group w = 0x7 ∧ r = x w ∧ b = nn w
  | .arithmetic operation r q =>
    group w = 0x8 ∧ Arithmetic.ofDigit? (n w) = some operation ∧ r = x w ∧ q = y w
  | .skipUnlessEqual r q => group w = 0x9 ∧ (n w).val = 0x0 ∧ r = x w ∧ q = y w
  | .setIndex a => group w = 0xA ∧ a = nnn w
  | .jumpOffset a => group w = 0xB ∧ a = nnn w
  | .random r b => group w = 0xC ∧ r = x w ∧ b = nn w
  | .draw r q height => group w = 0xD ∧ r = x w ∧ q = y w ∧ height = n w
  | .skipIfDown r => group w = 0xE ∧ nn w = 0x9E ∧ r = x w
  | .skipIfUp r => group w = 0xE ∧ nn w = 0xA1 ∧ r = x w
  | .readDelay r => group w = 0xF ∧ nn w = 0x07 ∧ r = x w
  | .awaitKey r => group w = 0xF ∧ nn w = 0x0A ∧ r = x w
  | .setDelay r => group w = 0xF ∧ nn w = 0x15 ∧ r = x w
  | .setSound r => group w = 0xF ∧ nn w = 0x18 ∧ r = x w
  | .addIndex r => group w = 0xF ∧ nn w = 0x1E ∧ r = x w
  | .glyph r => group w = 0xF ∧ nn w = 0x29 ∧ r = x w
  | .storeDecimal r => group w = 0xF ∧ nn w = 0x33 ∧ r = x w
  | .storeRegisters r => group w = 0xF ∧ nn w = 0x55 ∧ r = x w
  | .loadRegisters r => group w = 0xF ∧ nn w = 0x65 ∧ r = x w
  | .undefined v => v = w ∧ IsUndefined w

section

variable {w : Word}

theorem hasForm_ofSystem (hw : Word.group w = 0x0) : HasForm w (ofSystem w) := by
  unfold ofSystem
  split
  · next hclear => exact hclear
  · next hclear =>
    split
    · next hret => exact hret
    · next hret => exact ⟨hw, hclear, hret, rfl⟩

theorem hasForm_ofArithmetic (hw : Word.group w = 0x8) : HasForm w (ofArithmetic w) := by
  unfold ofArithmetic
  split
  · next operation hdigit => exact ⟨hw, hdigit, rfl, rfl⟩
  · next hdigit =>
    have hnone := (Arithmetic.ofDigit?_eq_none_iff _).1 hdigit
    exact ⟨rfl, .inr (.inl ⟨hw, hnone⟩)⟩

theorem hasForm_ofKeys (hw : Word.group w = 0xE) : HasForm w (ofKeys w) := by
  unfold ofKeys
  split
  · next h => exact ⟨hw, UInt8.toNat_inj.1 h, rfl⟩
  · next h => exact ⟨hw, UInt8.toNat_inj.1 h, rfl⟩
  · next h9E hA1 =>
    have hnone : (Word.nn w).toNat ∉ [0x9E, 0xA1] := by
      simp only [List.mem_cons, List.not_mem_nil, or_false, not_or]
      exact ⟨h9E, hA1⟩
    exact ⟨rfl, .inr (.inr (.inr (.inl ⟨hw, hnone⟩)))⟩

theorem hasForm_ofDevices (hw : Word.group w = 0xF) : HasForm w (ofDevices w) := by
  cases hi : ofDevices w with
  | undefined v =>
    rw [← decode_of_group_devices hw, decode_eq_undefined_iff] at hi
    exact hi
  | _ =>
    unfold ofDevices at hi
    split at hi
    all_goals
      cases hi
      try exact ⟨hw, UInt8.toNat_inj.1 ‹_›, rfl⟩

theorem hasForm_decode (w : Word) : HasForm w (decode w) := by
  have hlt := Word.group_lt w
  simp only [decode]
  interval_cases h : Word.group w
  case «0» => exact hasForm_ofSystem h
  case «8» => exact hasForm_ofArithmetic h
  case «14» => exact hasForm_ofKeys h
  case «15» => exact hasForm_ofDevices h
  case «5» =>
    change HasForm w (if (Word.n w).val = 0 then _ else _)
    split
    · next hn => exact ⟨h, hn, rfl, rfl⟩
    · next hn => exact ⟨rfl, .inl ⟨h, hn⟩⟩
  case «9» =>
    change HasForm w (if (Word.n w).val = 0 then _ else _)
    split
    · next hn => exact ⟨h, hn, rfl, rfl⟩
    · next hn => exact ⟨rfl, .inr (.inr (.inl ⟨h, hn⟩))⟩
  case «1» | «2» | «10» | «11» => exact ⟨h, rfl⟩
  case «3» | «4» | «6» | «7» | «12» => exact ⟨h, rfl, rfl⟩
  case «13» => exact ⟨h, rfl, rfl, rfl⟩

end

end Instruction

/-! ## The table -/

namespace Word

/-- Whether a word is of group F with one of these pairs of last digits. -/
def IsDevice (w : Word) (codes : List UInt8) : Prop := group w = 0xF ∧ nn w ∈ codes

/-- The registers that a word may write. -/
def WritesRegister (w : Word) (r : Register) : Prop :=
  (r = x w ∧ (group w ∈ [0x6, 0x7, 0xC] ∨
      group w = 0x8 ∧ (n w).val ∈ [0x0, 0x1, 0x2, 0x3, 0x4, 0x5, 0x6, 0x7, 0xE] ∨
      IsDevice w [0x07, 0x0A])) ∨
    (r = State.flagRegister ∧
      (group w = 0x8 ∧ (n w).val ∈ [0x4, 0x5, 0x6, 0x7, 0xE] ∨ group w = 0xD)) ∨
    (r ≤ x w ∧ IsDevice w [0x65])

/-- The parts that a word may write. -/
def Writes (w : Word) : Part → Prop
  | .memory => IsDevice w [0x33, 0x55]
  | .display => w = 0x00E0 ∨ group w = 0xD
  | .register r => WritesRegister w r
  | .index => group w = 0xA ∨ IsDevice w [0x1E, 0x29]
  | .stack => group w = 0x2 ∨ w = 0x00EE
  | .delay => IsDevice w [0x15]
  | .sound => IsDevice w [0x18]
  | .seenKeys => IsDevice w [0x0A]
  | .random => group w = 0xC
  | .undefinedCount | .lastUndefined => IsUndefined w
  | .keypad | .dialect => False

end Word

theorem Arithmetic.digit_of_ofDigit?_eq_some {d : Nat} {operation : Arithmetic}
    (h : ofDigit? d = some operation) :
    d ∈ [0x0, 0x1, 0x2, 0x3, 0x4, 0x5, 0x6, 0x7, 0xE] ∧
      (operation.hasFlag = true → d ∈ [0x4, 0x5, 0x6, 0x7, 0xE]) := by
  unfold ofDigit? at h
  split at h
  all_goals
    cases h
    try decide

/-- The table covers the footprint of the instruction. -/
theorem writes_of_hasForm {w : Word} {i : Instruction} {part : Part} (hw : i.HasForm w)
    (h : i.Writes part) : Word.Writes w part := by
  cases i with
  | clear =>
    subst h
    exact .inl hw
  | draw r q height =>
    rcases h with rfl | rfl
    · exact .inr hw.1
    · exact .inr (.inl ⟨rfl, .inr hw.1⟩)
  | ret =>
    subst h
    exact .inr hw
  | call a =>
    subst h
    exact .inl hw.1
  | setByte r b | addByte r b =>
    obtain ⟨hgroup, rfl, -⟩ := hw
    subst h
    exact .inl ⟨rfl, .inl (by simp [hgroup])⟩
  | random r b =>
    obtain ⟨hgroup, rfl, -⟩ := hw
    rcases h with rfl | rfl
    · exact hgroup
    · exact .inl ⟨rfl, .inl (by simp [hgroup])⟩
  | arithmetic operation r q =>
    obtain ⟨hgroup, hdigit, rfl, -⟩ := hw
    obtain ⟨hplain, hflagged⟩ := Arithmetic.digit_of_ofDigit?_eq_some hdigit
    rcases h with rfl | ⟨hflag, rfl⟩
    · exact .inl ⟨rfl, .inr (.inl ⟨hgroup, hplain⟩)⟩
    · exact .inr (.inl ⟨rfl, .inl ⟨hgroup, hflagged hflag⟩⟩)
  | readDelay r =>
    obtain ⟨hgroup, hnn, rfl⟩ := hw
    subst h
    exact .inl ⟨rfl, .inr (.inr ⟨hgroup, by simp [hnn]⟩)⟩
  | awaitKey r =>
    obtain ⟨hgroup, hnn, rfl⟩ := hw
    rcases h with rfl | rfl
    · exact ⟨hgroup, by simp [hnn]⟩
    · exact .inl ⟨rfl, .inr (.inr ⟨hgroup, by simp [hnn]⟩)⟩
  | setIndex a =>
    subst h
    exact .inl hw.1
  | addIndex r | glyph r =>
    subst h
    exact .inr ⟨hw.1, by simp [hw.2.1]⟩
  | setDelay r | setSound r | storeDecimal r | storeRegisters r =>
    subst h
    exact ⟨hw.1, by simp [hw.2.1]⟩
  | loadRegisters r =>
    obtain ⟨hgroup, hnn, rfl⟩ := hw
    obtain ⟨q, hq, rfl⟩ := h
    exact .inr (.inr ⟨hq, hgroup, by simp [hnn]⟩)
  | undefined v =>
    rcases h with rfl | rfl
    · exact hw.2
    · exact hw.2
  | _ => exact h.elim

/-! ## Cycles -/

namespace State

theorem hasForm_of_upcoming {s : State} {i : Instruction} (h : s.upcoming? = some i) :
    s.fault = none ∧ i.HasForm s.nextWord := by
  obtain ⟨⟨hs, -⟩, rfl⟩ := upcoming?_eq_some_iff.1 h
  exact ⟨hs, Instruction.hasForm_decode s.nextWord⟩

/-- A cycle changes only what its word may write, and nothing else even where it faults. -/
theorem sameAt_cycle {s : State} {part : Part}
    (h : s.fault = none → ¬ Word.Writes s.nextWord part) : s.SameAt s.cycle part := by
  cases hi : s.upcoming? with
  | none =>
    obtain ⟨fault, opcode, hcycle⟩ := cycle_of_upcoming_none hi
    rw [hcycle]
    exact s.sameAt_control s.pc opcode fault
  | some i =>
    obtain ⟨hs, hform⟩ := hasForm_of_upcoming hi
    have hfetched : s.SameAt { s with opcode := s.nextWord, pc := s.pc + 2 } part :=
      s.sameAt_control (s.pc + 2) s.nextWord s.fault
    rw [cycle_of_upcoming hi]
    apply hfetched.trans
    apply sameAt_perform
    intro hwrites
    exact h hs (writes_of_hasForm hform hwrites)

/-- A cycle that does not fault records the word that it executes and changes only the parts that
the word may write. -/
theorem cycle_writes_documented {s : State} (hs : s.fault = none) (hf : s.cycle.fault = none) :
    s.cycle.opcode = s.nextWord ∧ s.cycle.fault = s.fault ∧
      ∀ part, ¬ Word.Writes s.nextWord part → s.SameAt s.cycle part :=
  ⟨opcode_cycle hs, hf.trans hs.symm, fun _ hpart => sameAt_cycle fun _ => hpart⟩

/-- A sum whose own register is the flag register leaves the other operand alone. -/
theorem cycle_writes_documented_sum :
    let s : State :=
      { powerOn ⟨0, 0⟩ {} with
        memory := Memory.blank.store 0x200 [0x8F, 0x24]
        registers := Vector.replicate 16 200 }
    s.fault = none ∧ s.cycle.fault = none ∧ s.cycle.opcode = 0x8F24 ∧
      ¬ Word.Writes s.nextWord (.register 2) ∧ s.cycle.register 2 = s.register 2 := by
  intro s
  have hword : s.nextWord = 0x8F24 := by decide +kernel
  have hfault : s.cycle.fault = none := by decide +kernel
  obtain ⟨hopcode, -, hsame⟩ := cycle_writes_documented (s := s) rfl hfault
  have hnot : ¬ Word.Writes s.nextWord (.register 2) := by
    rw [hword]
    unfold Word.Writes Word.WritesRegister Word.IsDevice
    decide
  exact ⟨rfl, hfault, hopcode.trans hword, hnot, hsame _ hnot⟩

end State

end Chip8
