import Chip8.Proofs.Batch
import Chip8.Proofs.Devices
import Mathlib.Tactic.IntervalCases

/-!
# Reports of undefined words

The words outside the documented set (`Word.IsUndefined`) are those that decode to `undefined`, and
each of them adds one to a count of 32 bits (`toNat_undefinedCount_cycles`).  A host is told of the
undefined words of a step or a batch by the difference of the count after it and the count before.
So the report is exact as long as the count does not wrap around in between, and only then
(`undefined_reported_iff`).
-/

namespace Chip8

/-! ## Undefined words -/

/-- Whether a word is outside the documented set. -/
def Word.IsUndefined (w : Word) : Prop :=
  (group w = 0x5 ∧ (n w).val ≠ 0x0) ∨
    (group w = 0x8 ∧ (n w).val ∉ [0x0, 0x1, 0x2, 0x3, 0x4, 0x5, 0x6, 0x7, 0xE]) ∨
    (group w = 0x9 ∧ (n w).val ≠ 0x0) ∨
    (group w = 0xE ∧ (nn w).toNat ∉ [0x9E, 0xA1]) ∨
    (group w = 0xF ∧
      (nn w).toNat ∉ [0x07, 0x0A, 0x15, 0x18, 0x1E, 0x29, 0x33, 0x55, 0x65])

instance (w : Word) : Decidable (Word.IsUndefined w) :=
  inferInstanceAs (Decidable (_ ∨ _ ∨ _ ∨ _ ∨ _))

theorem Arithmetic.ofDigit?_eq_none_iff (d : Nat) :
    ofDigit? d = none ↔ d ∉ [0x0, 0x1, 0x2, 0x3, 0x4, 0x5, 0x6, 0x7, 0xE] := by
  unfold ofDigit?
  split
  all_goals simp_all

namespace Instruction

theorem ofSystem_ne_undefined (w v : Word) : ofSystem w ≠ .undefined v := by
  intro h
  unfold ofSystem at h
  split at h
  · cases h
  · split at h
    · cases h
    · cases h

theorem ofArithmetic_eq_undefined_iff (w v : Word) :
    ofArithmetic w = .undefined v ↔
      v = w ∧ (Word.n w).val ∉ [0x0, 0x1, 0x2, 0x3, 0x4, 0x5, 0x6, 0x7, 0xE] := by
  rw [← Arithmetic.ofDigit?_eq_none_iff, ofArithmetic]
  cases hdigit : Arithmetic.ofDigit? (Word.n w) with
  | none => simp [eq_comm]
  | some operation => simp

theorem ofKeys_eq_undefined_iff (w v : Word) :
    ofKeys w = .undefined v ↔ v = w ∧ (Word.nn w).toNat ∉ [0x9E, 0xA1] := by
  unfold ofKeys
  split
  all_goals simp_all [eq_comm]

theorem ofDevices_eq_undefined_iff (w v : Word) :
    ofDevices w = .undefined v ↔
      v = w ∧ (Word.nn w).toNat ∉ [0x07, 0x0A, 0x15, 0x18, 0x1E, 0x29, 0x33, 0x55, 0x65] := by
  unfold ofDevices
  split
  all_goals simp_all [eq_comm]

theorem decode_eq_undefined_iff (w v : Word) :
    decode w = .undefined v ↔ v = w ∧ Word.IsUndefined w := by
  have hlt := Word.group_lt w
  simp only [decode, Word.IsUndefined]
  interval_cases h : Word.group w
  case «0» => simp [ofSystem_ne_undefined]
  case «5» | «9» =>
    by_cases hn : (Word.n w).val = 0
    · simp [hn]
    · simp [hn, eq_comm]
  case «8» => simp [ofArithmetic_eq_undefined_iff]
  case «14» => simp [ofKeys_eq_undefined_iff]
  case «15» => simp [ofDevices_eq_undefined_iff]
  all_goals simp

end Instruction

namespace State

/-! ## The record of undefined words -/

theorem cycle_of_undefined {s : State} (hs : s.fault = none)
    (hw : Word.IsUndefined s.nextWord) :
    s.cycle = { s with
      opcode := s.nextWord
      pc := s.pc + 2
      undefinedCount := s.undefinedCount + 1
      lastUndefined := s.nextWord } := by
  have hpc : s.pc.toNat < 4095 := by
    apply pc_lt_of_nextWord_ne_zero
    intro hzero
    rw [hzero] at hw
    revert hw
    decide
  have hdecode := (Instruction.decode_eq_undefined_iff s.nextWord s.nextWord).2 ⟨rfl, hw⟩
  rw [cycle_of_upcoming (upcoming?_eq_some_iff.2 ⟨⟨hs, hpc⟩, hdecode⟩), perform]

theorem record_cycle_of_defined {s : State}
    (h : ¬ (s.fault = none ∧ Word.IsUndefined s.nextWord)) :
    s.cycle.undefinedCount = s.undefinedCount ∧ s.cycle.lastUndefined = s.lastUndefined := by
  cases hi : s.upcoming? with
  | none =>
    have hsame := sameDevices_cycle_of_none hi
    exact ⟨hsame.undefinedCount, hsame.lastUndefined⟩
  | some i =>
    cases i with
    | undefined v =>
      obtain ⟨⟨hs, -⟩, hdecode⟩ := upcoming?_eq_some_iff.1 hi
      exact absurd ⟨hs, ((Instruction.decode_eq_undefined_iff _ _).1 hdecode).2⟩ h
    | awaitKey x =>
      rw [cycle_of_upcoming hi]
      simp only [perform, awaitKey]
      split
      · exact ⟨rfl, rfl⟩
      · exact ⟨rfl, rfl⟩
    | random | setDelay | setSound =>
      rw [cycle_of_upcoming hi]
      exact ⟨rfl, rfl⟩
    | _ =>
      have hsame := sameDevices_cycle hi rfl
      exact ⟨hsame.undefinedCount, hsame.lastUndefined⟩

/-- The undefined words that a number of cycles execute, in order. -/
def undefinedWords : Nat → State → List Word
  | 0, _ => []
  | n + 1, s =>
    (if s.fault = none ∧ Word.IsUndefined s.nextWord then [s.nextWord] else []) ++
      undefinedWords n s.cycle

theorem toNat_undefinedCount_cycles (n : Nat) (s : State) :
    (s.cycles n).undefinedCount.toNat =
      (s.undefinedCount.toNat + (s.undefinedWords n).length) % 2 ^ 32 := by
  induction n generalizing s with
  | zero => exact (Nat.mod_eq_of_lt s.undefinedCount.toNat_lt).symm
  | succ n ih =>
    rw [cycles, ih, undefinedWords, List.length_append]
    by_cases h : s.fault = none ∧ Word.IsUndefined s.nextWord
    · have hone : (1 : UInt32).toNat = 1 := rfl
      rw [if_pos h, cycle_of_undefined h.1 h.2, UInt32.toNat_add, hone, List.length_singleton]
      omega
    · rw [if_neg h, (record_cycle_of_defined h).1, List.length_nil, Nat.zero_add]

theorem lastUndefined_cycles (n : Nat) (s : State) :
    (s.cycles n).lastUndefined = (s.undefinedWords n).getLastD s.lastUndefined := by
  induction n generalizing s with
  | zero => rfl
  | succ n ih =>
    rw [cycles, ih, undefinedWords]
    by_cases h : s.fault = none ∧ Word.IsUndefined s.nextWord
    · rw [if_pos h, cycle_of_undefined h.1 h.2, List.singleton_append, List.getLastD_cons]
    · rw [if_neg h, (record_cycle_of_defined h).2, List.nil_append]

/-! ## The messages of a report -/

/-- What a host is told of so many undefined words, the last of which is given. -/
def undefinedNotice (count : Nat) (last : Word) : List Message :=
  if count = 0 then []
  else if count = 1 then
    [⟨.warning, "Unknown opcode " ++ hexNumber 4 last.toNat ++ " ignored"⟩]
  else
    [⟨.warning, toString count ++ " unknown opcodes ignored (last " ++ hexNumber 4 last.toNat ++
      ")"⟩]

theorem undefinedNotice_zero (last : Word) : undefinedNotice 0 last = [] := rfl

theorem messages_reportUndefined (before : UInt32) (s : State) :
    (reportUndefined before s false).messages =
      undefinedNotice (s.undefinedCount.toNat - before.toNat) s.lastUndefined := by
  simp only [reportUndefined, undefinedNotice, Bool.false_eq_true, if_false]
  split
  · rfl
  · split
    · rfl
    · rfl

theorem messages_run (s : State) (n : Nat) :
    (s.run n).messages =
      undefinedNotice ((s.cycles n).undefinedCount.toNat - s.undefinedCount.toNat)
        (s.cycles n).lastUndefined ++ (s.cycles n).raiseFault.messages := by
  have hok := result_reportUndefined s.undefinedCount (s.cycles n)
  rw [← messages_reportUndefined, run, report]
  change (Outcome.andThen _ _).messages = _
  rw [Outcome.andThen, hok]

theorem severity_of_mem_undefinedNotice {count : Nat} {last : Word} {m : Message}
    (hm : m ∈ undefinedNotice count last) : m.severity = .warning := by
  unfold undefinedNotice at hm
  split at hm
  · cases hm
  · split at hm
    · rw [List.mem_singleton.1 hm]
    · rw [List.mem_singleton.1 hm]

theorem severity_of_mem_raiseFault {s : State} {m : Message}
    (hm : m ∈ s.raiseFault.messages) : m.severity = .error := by
  unfold raiseFault at hm
  split at hm
  · cases hm
  · cases hm
  · rw [List.mem_singleton.1 hm]

/-- A console at the level of warnings shows all that a batch says. -/
theorem filter_shows_run (s : State) (n : Nat) {console : Console}
    (hconsole : console.threshold = .warning) :
    (s.run n).messages.filter console.shows = (s.run n).messages := by
  refine List.filter_eq_self.2 fun m hm => ?_
  rw [messages_run, List.mem_append] at hm
  rw [Console.shows, hconsole]
  rcases hm with hm | hm
  · rw [severity_of_mem_undefinedNotice hm]
    rfl
  · rw [severity_of_mem_raiseFault hm]
    rfl

theorem eq_of_toString_eq {a b : Nat} (h : toString a = toString b) : a = b := by
  rw [Nat.toString_eq_ofList_toDigits, Nat.toString_eq_ofList_toDigits, String.ofList_inj] at h
  have hdigits := congrArg (fun digits => Nat.ofDigitChars 10 digits 0) h
  simpa only [Nat.ofDigitChars_ten_toDigits] using hdigits

/-- The notice of one word ends otherwise than a notice that begins with a number. -/
theorem notice_one_ne (shown : String) (count : Nat) :
    "Unknown opcode " ++ shown ++ " ignored" ≠
      toString count ++ " unknown opcodes ignored (last " ++ shown ++ ")" := by
  intro heq
  have hone : " ignored".toList.getLast? = some 'd' := by decide
  have hmany : ")".toList.getLast? = some ')' := by decide
  have hlast := congrArg (fun text : String => text.toList.getLast?) heq
  simp only [String.toList_append, List.getLast?_append, hone, hmany, Option.some_or] at hlast
  cases hlast

/-- Two notices with the same last word are of the same number of words. -/
theorem undefinedNotice_inj {a b : Nat} {last : Word}
    (h : undefinedNotice a last = undefinedNotice b last) : a = b := by
  unfold undefinedNotice at h
  by_cases ha : a = 0
  · by_cases hb : b = 0
    · rw [ha, hb]
    · rw [if_pos ha, if_neg hb] at h
      split at h
      · cases h
      · cases h
  · by_cases hb : b = 0
    · rw [if_neg ha, if_pos hb] at h
      split at h
      · cases h
      · cases h
    · rw [if_neg ha, if_neg hb] at h
      by_cases ha' : a = 1 <;> by_cases hb' : b = 1
      · rw [ha', hb']
      · rw [if_pos ha', if_neg hb'] at h
        simp only [List.cons.injEq, Message.mk.injEq, true_and, and_true] at h
        exact absurd h (notice_one_ne _ b)
      · rw [if_neg ha', if_pos hb'] at h
        simp only [List.cons.injEq, Message.mk.injEq, true_and, and_true] at h
        exact absurd h.symm (notice_one_ne _ a)
      · rw [if_neg ha', if_neg hb'] at h
        simp only [List.cons.injEq, Message.mk.injEq, true_and, and_true,
          String.append_left_inj] at h
        exact eq_of_toString_eq h

/-! ## Exact reports -/

theorem result_step_strict {s : State} (hs : s.fault = none) :
    (s.step true).result =
      if Word.IsUndefined s.nextWord ∧ s.undefinedCount.toNat + 1 < 2 ^ 32 then
        .error (.undefinedWord s.nextWord s.pc)
      else s.cycle.raiseFault.result := by
  have hlt := s.undefinedCount.toNat_lt
  have hcount := toNat_undefinedCount_cycles 1 s
  rw [cycles, cycles, undefinedWords, undefinedWords, List.append_nil] at hcount
  rw [step, report, Outcome.result_bind]
  by_cases hw : Word.IsUndefined s.nextWord
  · rw [if_pos ⟨hs, hw⟩, List.length_singleton] at hcount
    by_cases hwraps : s.undefinedCount.toNat + 1 < 2 ^ 32
    · have hone : s.cycle.undefinedCount.toNat - s.undefinedCount.toNat = 1 := by omega
      rw [if_pos ⟨hw, hwraps⟩, reportUndefined, hone, cycle_of_undefined hs hw]
      simp only [UInt16.add_sub_cancel]
      rfl
    · have hzero : s.cycle.undefinedCount.toNat - s.undefinedCount.toNat = 0 := by omega
      rw [if_neg fun h => hwraps h.2, reportUndefined, hzero]
      rfl
  · rw [if_neg fun h => hw h.2, List.length_nil] at hcount
    have hzero : s.cycle.undefinedCount.toNat - s.undefinedCount.toNat = 0 := by omega
    rw [if_neg fun h => hw h.1, reportUndefined, hzero]
    rfl

/-- Undefined words are reported exactly as long as their count does not wrap around.  Where it
does, a strict step passes over the word, and the notice of a batch is not the one of the words that
it executed. -/
theorem undefined_reported_iff {s : State} (hs : s.fault = none) :
    (∀ w pc, (s.step true).result = .error (.undefinedWord w pc) ↔
      (Word.IsUndefined s.nextWord ∧ w = s.nextWord ∧ pc = s.pc) ∧
        s.undefinedCount.toNat + 1 < 2 ^ 32) ∧
    ∀ (console : Console) (n : Nat), console.threshold = .warning →
      ((s.run n).messages.filter console.shows =
          undefinedNotice (s.undefinedWords n).length ((s.undefinedWords n).getLastD 0) ++
            (s.cycles n).raiseFault.messages ↔
        s.undefinedWords n = [] ∨
          s.undefinedCount.toNat + (s.undefinedWords n).length < 2 ^ 32) := by
  refine ⟨fun w pc => ?_, fun console n hconsole => ?_⟩
  · rw [result_step_strict hs]
    split
    · next h =>
      constructor
      · intro heq
        cases heq
        exact ⟨⟨h.1, rfl, rfl⟩, h.2⟩
      · rintro ⟨⟨-, rfl, rfl⟩, -⟩
        rfl
    · next h =>
      refine iff_of_false (result_raiseFault_ne_undefinedWord _ w pc) ?_
      rintro ⟨⟨hw, -, -⟩, hfits⟩
      exact h ⟨hw, hfits⟩
  · have hlt := s.undefinedCount.toNat_lt
    rw [filter_shows_run s n hconsole, messages_run, List.append_left_inj,
      toNat_undefinedCount_cycles, lastUndefined_cycles]
    rcases List.eq_nil_or_concat (s.undefinedWords n) with hnil | ⟨words, last, hwords⟩
    · have hzero : (s.undefinedCount.toNat + 0) % 2 ^ 32 - s.undefinedCount.toNat = 0 := by omega
      rw [hnil, List.length_nil, hzero, undefinedNotice_zero, undefinedNotice_zero]
      exact iff_of_true rfl (.inl rfl)
    · rw [List.concat_eq_append] at hwords
      have hpos : 0 < (s.undefinedWords n).length := by
        rw [hwords, List.length_append]
        exact Nat.succ_pos _
      have hlast : ∀ default, (s.undefinedWords n).getLastD default = last := fun default => by
        rw [hwords, List.getLastD_concat]
      rw [hlast, hlast]
      constructor
      · intro h
        have hexact := undefinedNotice_inj h
        omega
      · rintro (hnil | hfits)
        · rw [hnil] at hpos
          cases hpos
        · rw [Nat.mod_eq_of_lt hfits, Nat.add_sub_cancel_left]

/-- Two of three words are undefined, and the count reaches its largest value. -/
theorem undefined_reported_iff_last :
    let s : State :=
      { powerOn ⟨0, 0⟩ {} with
        memory := Memory.blank.store 0x200 [0x80, 0x0F, 0x60, 0x05, 0x80, 0x09]
        undefinedCount := 0xFFFFFFFD }
    s.fault = none ∧
      (s.step true).result = .error (.undefinedWord 0x800F 0x200) ∧
      (s.run 3).messages.filter Console.forMachine.shows =
        undefinedNotice 2 0x8009 ++ (s.cycles 3).raiseFault.messages := by
  intro s
  have hwords : s.nextWord = 0x800F ∧ s.undefinedWords 3 = [0x800F, 0x8009] := by decide +kernel
  obtain ⟨hnext, hthree⟩ := hwords
  obtain ⟨hstep, hrun⟩ := undefined_reported_iff (s := s) rfl
  refine ⟨rfl, (hstep 0x800F 0x200).2 ⟨⟨?_, hnext.symm, rfl⟩, by decide⟩, ?_⟩
  · rw [hnext]
    decide
  · have h := (hrun .forMachine 3 (by decide +kernel)).2 (.inr (by rw [hthree]; decide))
    rwa [hthree] at h

/-- The largest value of the count is followed by zero, and the word that does this is never
reported. -/
theorem undefined_missed_at_wrap :
    let s : State :=
      { powerOn ⟨0, 0⟩ {} with
        memory := Memory.blank.store 0x200 [0x80, 0x0F]
        undefinedCount := 0xFFFFFFFF }
    s.fault = none ∧ s.undefinedWords 1 = [0x800F] ∧
      (∀ w pc, (s.step true).result ≠ .error (.undefinedWord w pc)) ∧ (s.run 1).messages = [] := by
  intro s
  have hwords : s.undefinedWords 1 = [0x800F] := by decide +kernel
  refine ⟨rfl, hwords, fun w pc => ?_, ?_⟩
  · rw [result_step_strict rfl, if_neg fun h => absurd h.2 (by decide)]
    exact result_raiseFault_ne_undefinedWord _ w pc
  · have hcount : (s.cycles 1).undefinedCount.toNat - s.undefinedCount.toNat = 0 := by
      rw [toNat_undefinedCount_cycles, hwords]
      decide
    have hfault : (s.cycles 1).raiseFault.messages = [] := by decide +kernel
    rw [messages_run, hcount, undefinedNotice_zero, hfault, List.append_nil]

end State

end Chip8
