import Chip8.Proofs.Dialects
import Chip8.Proofs.Dispatch
import Chip8.Proofs.KeyPress
import Chip8.Proofs.ProgramCounter
import Chip8.Proofs.Strict

/-!
# Where a cycle leads

Fetching moves the program counter before the instruction is performed, so every instruction that
steers adjusts a counter that already points past it.  `State.nextAddress?` is the table of the
addresses that come out in the end, told from the digits of the word and from the state before the
cycle.  Its sums are those of the natural numbers.  A cycle that does not fault goes where the table
says (`State.cycle_goes_to`).
-/

namespace Chip8

theorem Word.ne_return_of_group {w : Word} (h : group w ≠ 0x0) : w ≠ 0x00EE := by
  rintro rfl
  exact h (by decide)

theorem ne_of_toNat_not_mem {b c : UInt8} {codes : List Nat} (hb : b.toNat ∉ codes)
    (hc : c.toNat ∈ codes) : b ≠ c := by
  rintro rfl
  exact hb hc

theorem CallStack.slot?_top {c : CallStack} (htaken : c.isEmpty = false)
    (hle : c.pointer.toNat ≤ 16) : c.slot? (c.pointer.toNat - 1) = some c.pop.2 := by
  have hpos := isEmpty_eq_false_iff.1 htaken
  have htop := toNat_pointer_pop hpos
  rw [pointer_pop] at htop
  rw [slot?_of_lt (by omega), snd_pop, htop]

namespace State

/-! ## The table -/

open Word in
/-- The word goes past the one behind it. -/
def Skips (s : State) (w : Word) : Prop :=
  (group w = 0x3 ∧ s.register (x w) = nn w) ∨
    (group w = 0x4 ∧ s.register (x w) ≠ nn w) ∨
    (group w = 0x5 ∧ (n w).val = 0x0 ∧ s.register (x w) = s.register (y w)) ∨
    (group w = 0x9 ∧ (n w).val = 0x0 ∧ s.register (x w) ≠ s.register (y w)) ∨
    (group w = 0xE ∧ nn w = 0x9E ∧ s.keypad.isDown (lowDigit (s.register (x w))) = true) ∨
    (group w = 0xE ∧ nn w = 0xA1 ∧ s.keypad.isDown (lowDigit (s.register (x w))) = false)

/-- The word waits for a key, and none went down. -/
def Waits (s : State) (w : Word) : Prop :=
  Word.group w = 0xF ∧ Word.nn w = 0x0A ∧ ∀ k, ¬ s.keypad.WentDown s.seenKeys k

instance (s : State) (w : Word) : Decidable (s.Skips w) :=
  inferInstanceAs (Decidable (_ ∨ _ ∨ _ ∨ _ ∨ _ ∨ _))

instance (s : State) (w : Word) : Decidable (s.Waits w) :=
  inferInstanceAs (Decidable (_ ∧ _ ∧ _))

/-- The address behind a word at the program counter, as execution goes.  A return leads nowhere if
the slot below the stack pointer is none. -/
def nextAddress? (s : State) (w : Word) : Option Nat :=
  if Word.group w = 0x1 ∨ Word.group w = 0x2 then some (Word.nnn w).val
  else if w = 0x00EE then (s.stack.slot? (s.stack.pointer.toNat - 1)).map UInt16.toNat
  else if Word.group w = 0xB then
    let x := if s.dialect.jumpsByDigit then Word.x w else firstRegister
    some ((Word.nnn w).val + (s.register x).toNat)
  else if s.Skips w then some (s.pc.toNat + 4)
  else if s.Waits w then some s.pc.toNat
  else some (s.pc.toNat + 2)

section

variable {s : State} {w : Word} {i : Instruction}

/-! ## Words that go on -/

theorem nextAddress?_of_undefined (hw : Word.IsUndefined w) :
    s.nextAddress? w = some (s.pc.toNat + 2) := by
  rcases hw with ⟨hgroup, hn⟩ | ⟨hgroup, -⟩ | ⟨hgroup, hn⟩ | ⟨hgroup, hnn⟩ | ⟨hgroup, hnn⟩
  all_goals have hret : w ≠ 0x00EE := Word.ne_return_of_group (by simp [hgroup])
  · simp [nextAddress?, Skips, Waits, hgroup, hret, hn]
  · simp [nextAddress?, Skips, Waits, hgroup, hret]
  · simp [nextAddress?, Skips, Waits, hgroup, hret, hn]
  · have hdown : Word.nn w ≠ 0x9E := ne_of_toNat_not_mem hnn (by decide)
    have hup : Word.nn w ≠ 0xA1 := ne_of_toNat_not_mem hnn (by decide)
    simp [nextAddress?, Skips, Waits, hgroup, hret, hdown, hup]
  · have hwait : Word.nn w ≠ 0x0A := ne_of_toNat_not_mem hnn (by decide)
    simp [nextAddress?, Skips, Waits, hgroup, hret, hwait]

/-- The words of the other instructions have none of the digits that steer. -/
theorem nextAddress?_of_not_steers (hform : i.HasForm w) (hi : i.steers = false) :
    s.nextAddress? w = some (s.pc.toNat + 2) := by
  cases i with
  | clear =>
    have hdigits : Word.group w = 0x0 ∧ w ≠ 0x00EE := by
      rw [hform]
      decide
    simp [nextAddress?, Skips, Waits, hdigits.1, hdigits.2]
  | hostRoutine a =>
    obtain ⟨hgroup, -, hret, -⟩ := hform
    simp [nextAddress?, Skips, Waits, hgroup, hret]
  | setByte | addByte | arithmetic | setIndex | random | draw =>
    have hret : w ≠ 0x00EE := Word.ne_return_of_group (by simp [hform.1])
    simp [nextAddress?, Skips, Waits, hform.1, hret]
  | readDelay | setDelay | setSound | addIndex | glyph | storeDecimal | storeRegisters
  | loadRegisters =>
    have hret : w ≠ 0x00EE := Word.ne_return_of_group (by simp [hform.1])
    simp [nextAddress?, Skips, Waits, hform.1, hform.2.1, hret]
  | undefined v => exact nextAddress?_of_undefined hform.2
  | ret | jump | call | skipIfByte | skipUnlessByte | skipIfEqual | skipUnlessEqual | jumpOffset
  | skipIfDown | skipIfUp | awaitKey => cases hi

/-! ## Words that steer -/

theorem nextAddress?_return :
    s.nextAddress? 0x00EE =
      (s.stack.slot? (s.stack.pointer.toNat - 1)).map UInt16.toNat := by
  rw [nextAddress?, if_neg (by decide), if_pos rfl]

theorem nextAddress?_of_group_jumpOffset (hgroup : Word.group w = 0xB) :
    s.nextAddress? w = some ((Word.nnn w).val +
      (s.register (if s.dialect.jumpsByDigit then Word.x w else firstRegister)).toNat) := by
  have hret : w ≠ 0x00EE := Word.ne_return_of_group (by simp [hgroup])
  rw [nextAddress?, if_neg (by simp [hgroup]), if_neg hret, if_pos hgroup]

/-- A word of one of the five groups of skips goes one word on, or two. -/
theorem nextAddress?_of_skip (hgroup : Word.group w ∈ [0x3, 0x4, 0x5, 0x9, 0xE])
    {condition : Bool} (hskips : s.Skips w ↔ condition = true) :
    s.nextAddress? w = some (s.pc.toNat + 2 + if condition then 2 else 0) := by
  have hother : Word.group w ≠ 0x0 ∧ ¬ (Word.group w = 0x1 ∨ Word.group w = 0x2) ∧
      Word.group w ≠ 0xB ∧ Word.group w ≠ 0xF := by
    simp only [List.mem_cons, List.not_mem_nil, or_false] at hgroup
    omega
  obtain ⟨hzero, hjump, hoffset, hdevice⟩ := hother
  have hwaits : ¬ s.Waits w := fun h => hdevice h.1
  rw [nextAddress?, if_neg hjump, if_neg (Word.ne_return_of_group hzero), if_neg hoffset]
  cases condition with
  | false =>
    rw [if_neg fun h => Bool.false_ne_true (hskips.1 h), if_neg hwaits]
    rfl
  | true =>
    rw [if_pos (hskips.2 rfl)]
    rfl

theorem nextAddress?_of_wait (hgroup : Word.group w = 0xF) (hnn : Word.nn w = 0x0A) :
    s.nextAddress? w = some (s.pc.toNat +
      if s.keypad.firstPressed? s.seenKeys = none then 0 else 2) := by
  have hret : w ≠ 0x00EE := Word.ne_return_of_group (by simp [hgroup])
  have hwaits : s.Waits w ↔ s.keypad.firstPressed? s.seenKeys = none := by
    simp only [Waits, hgroup, hnn, true_and, Keypad.firstPressed?_eq_none_iff]
  have hskips : ¬ s.Skips w := by simp [Skips, hgroup]
  rw [nextAddress?, if_neg (by simp [hgroup]), if_neg hret, if_neg (by simp [hgroup]),
    if_neg hskips]
  simp only [hwaits]
  split
  · rfl
  · rfl

/-! ## The counter after an instruction -/

theorem toNat_pc_skipIf (hpc : s.pc.toNat + 2 < 65536) (condition : Bool) :
    (s.skipIf condition).pc.toNat = s.pc.toNat + if condition then 2 else 0 := by
  cases condition with
  | false => rfl
  | true => exact toNat_pc_add_two hpc

theorem toNat_pc_awaitKey (hpc : 2 ≤ s.pc.toNat) (x : Register) :
    (s.awaitKey x).pc.toNat =
      s.pc.toNat - 2 + if s.keypad.firstPressed? s.seenKeys = none then 0 else 2 := by
  unfold awaitKey
  cases hfirst : s.keypad.firstPressed? s.seenKeys with
  | none =>
    have hle : (2 : UInt16) ≤ s.pc := UInt16.le_iff_toNat_le.2 hpc
    exact UInt16.toNat_sub_of_le _ _ hle
  | some k =>
    change s.pc.toNat = s.pc.toNat - 2 + 2
    omega

/-- The instruction is performed with the counter behind the word, and leaves it where the table
says. -/
theorem nextAddress?_eq (hpc : s.pc.toNat < 4095) (hstack : s.stack.pointer.toNat ≤ 16)
    (hform : i.HasForm w)
    (hobstacle : { s with opcode := w, pc := s.pc + 2 }.obstacle i = none) :
    s.nextAddress? w = some ({ s with opcode := w, pc := s.pc + 2 }.perform i).pc.toNat := by
  have hnext : (s.pc + 2).toNat = s.pc.toNat + 2 := toNat_pc_add_two (by omega)
  have hskip : ∀ condition, ({ s with opcode := w, pc := s.pc + 2 }.skipIf condition).pc.toNat =
      s.pc.toNat + 2 + if condition then 2 else 0 := by
    intro condition
    rw [← hnext]
    apply toNat_pc_skipIf
    change (s.pc + 2).toNat + 2 < 65536
    omega
  cases i with
  | jump target =>
    obtain ⟨hgroup, rfl⟩ := hform
    rw [nextAddress?, if_pos (.inl hgroup)]
    exact congrArg some (toNat_address _).symm
  | call target =>
    obtain ⟨hgroup, rfl⟩ := hform
    rw [obstacle, Fault.when_eq_none] at hobstacle
    rw [nextAddress?, if_pos (.inr hgroup), perform, enter, if_neg hobstacle]
    exact congrArg some (toNat_address _).symm
  | ret =>
    cases hform
    rw [obstacle, Fault.when_eq_none] at hobstacle
    have htop := CallStack.slot?_top (Bool.not_eq_true _ ▸ hobstacle) hstack
    rw [nextAddress?_return, perform, leave, if_neg hobstacle]
    exact congrArg (Option.map UInt16.toNat) htop
  | jumpOffset base =>
    obtain ⟨hgroup, rfl⟩ := hform
    rw [nextAddress?_of_group_jumpOffset hgroup, ← Word.leadingDigit_nnn]
    exact congrArg some (toNat_jumpOffset _ _).symm
  | skipIfByte r b =>
    obtain ⟨hgroup, rfl, rfl⟩ := hform
    have hskips : s.Skips w ↔ (s.register (Word.x w) == Word.nn w) = true := by
      simp [Skips, hgroup]
    rw [perform, hskip]
    exact nextAddress?_of_skip (by simp [hgroup]) hskips
  | skipUnlessByte r b =>
    obtain ⟨hgroup, rfl, rfl⟩ := hform
    have hskips : s.Skips w ↔ (s.register (Word.x w) != Word.nn w) = true := by
      simp [Skips, hgroup]
    rw [perform, hskip]
    exact nextAddress?_of_skip (by simp [hgroup]) hskips
  | skipIfEqual r q =>
    obtain ⟨hgroup, hn, rfl, rfl⟩ := hform
    have hskips : s.Skips w ↔ (s.register (Word.x w) == s.register (Word.y w)) = true := by
      simp [Skips, hgroup, hn]
    rw [perform, hskip]
    exact nextAddress?_of_skip (by simp [hgroup]) hskips
  | skipUnlessEqual r q =>
    obtain ⟨hgroup, hn, rfl, rfl⟩ := hform
    have hskips : s.Skips w ↔ (s.register (Word.x w) != s.register (Word.y w)) = true := by
      simp [Skips, hgroup, hn]
    rw [perform, hskip]
    exact nextAddress?_of_skip (by simp [hgroup]) hskips
  | skipIfDown r =>
    obtain ⟨hgroup, hnn, rfl⟩ := hform
    have hskips : s.Skips w ↔ s.keypad.isDown (lowDigit (s.register (Word.x w))) = true := by
      simp [Skips, hgroup, hnn]
    rw [perform, hskip]
    exact nextAddress?_of_skip (by simp [hgroup]) hskips
  | skipIfUp r =>
    obtain ⟨hgroup, hnn, rfl⟩ := hform
    have hskips : s.Skips w ↔ (!s.keypad.isDown (lowDigit (s.register (Word.x w)))) = true := by
      simp [Skips, hgroup, hnn]
    rw [perform, hskip]
    exact nextAddress?_of_skip (by simp [hgroup]) hskips
  | awaitKey r =>
    obtain ⟨hgroup, hnn, rfl⟩ := hform
    have hbehind : 2 ≤ { s with opcode := w, pc := s.pc + 2 }.pc.toNat := by
      change 2 ≤ (s.pc + 2).toNat
      omega
    have hback : (s.pc + 2).toNat - 2 = s.pc.toNat := by omega
    rw [nextAddress?_of_wait hgroup hnn, perform, toNat_pc_awaitKey hbehind, hback]
  | _ =>
    rw [nextAddress?_of_not_steers hform rfl, pc_perform rfl hobstacle]
    exact congrArg some hnext.symm

end

/-! ## One cycle -/

/-- A cycle that does not fault goes to the address that the table gives for its word. -/
theorem cycle_goes_to {s : State} (hs : s.fault = none) (hstack : s.stack.pointer.toNat ≤ 16)
    (hf : s.cycle.fault = none) : s.nextAddress? s.nextWord = some s.cycle.pc.toNat := by
  rw [fault_cycle hs, nextFault] at hf
  split at hf
  · next hpc =>
    rw [cycle_of_lt hs hpc]
    apply nextAddress?_eq hpc hstack (Instruction.hasForm_decode s.nextWord)
    exact (obstacle_congr rfl rfl rfl _).trans hf
  · cases hf

/-- A return from the innermost of sixteen routines. -/
theorem cycle_goes_to_return :
    let s : State :=
      { powerOn ⟨0, 0⟩ {} with
        memory := Memory.blank.store 0x200 [0x00, 0xEE]
        stack := { slots := (Vector.replicate 16 0x300).setIfInBounds 15 0xABC, pointer := 16 } }
    s.fault = none ∧ s.stack.pointer.toNat ≤ 16 ∧ s.cycle.fault = none ∧
      s.nextWord = 0x00EE ∧ s.nextAddress? 0x00EE = some 0xABC ∧ s.cycle.pc.toNat = 0xABC := by
  intro s
  have hrun : s.cycle.fault = none ∧ s.nextWord = 0x00EE ∧
      s.nextAddress? 0x00EE = some 0xABC := by decide +kernel
  obtain ⟨hf, hword, haddress⟩ := hrun
  have hgoes := cycle_goes_to (s := s) rfl (by decide) hf
  rw [hword, haddress, Option.some_inj] at hgoes
  exact ⟨rfl, by decide, hf, hword, haddress, hgoes.symm⟩

end State

end Chip8
