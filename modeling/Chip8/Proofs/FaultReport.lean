import Chip8.Proofs.Batch
import Chip8.Proofs.Diagnosis
import Chip8.Proofs.Reachable

/-!
# Fault reports

A halted machine tells its host which fault it has, where, and in which word.  The report is what
the state deserves when the cycle ends (`reported_cycle`), and as long as the machine stays halted
no call of the host makes it untrue (`reported_of_reachable`): memory may be loaded anew, but the
diagnosis rests on the address, the recorded word, the stack, the index and the registers.
-/

namespace Chip8

namespace State

/-- A fault, or none, is the true report on a word at the program counter. -/
structure Reported (s : State) (w : Word) (fault : Option Fault) : Prop where
  fetch : fault = some .outOfBounds ∧ w = 0 ↔ 4095 ≤ s.pc.toNat
  word : s.pc.toNat < 4095 → ∀ f, fault = f ↔ s.Deserves w f

/-! ## The diagnosis rests on four fields -/

section Congr

variable {s t : State} (hstack : t.stack = s.stack) (hindex : t.index = s.index)
  (hregisters : t.registers = s.registers)

include hstack hindex hregisters in
theorem deserves_congr (w : Word) (f : Option Fault) : t.Deserves w f ↔ s.Deserves w f := by
  rw [← obstacle_decode_iff, ← obstacle_decode_iff, obstacle_congr hstack hindex hregisters]

include hstack hindex hregisters in
theorem Reported.congr {w : Word} {fault : Option Fault} (hpc : t.pc = s.pc)
    (h : s.Reported w fault) : t.Reported w fault := by
  refine ⟨?_, fun ht f => ?_⟩
  · rw [hpc]
    exact h.fetch
  · rw [deserves_congr hstack hindex hregisters]
    exact h.word (hpc ▸ ht) f

end Congr

/-! ## The report of a cycle -/

theorem nextFault_of_le {s : State} (h : 4095 ≤ s.pc.toNat) : s.nextFault = some .outOfBounds :=
  if_neg (Nat.not_lt.2 h)

theorem nextWord_of_le {s : State} (h : 4095 ≤ s.pc.toNat) : s.nextWord = 0 :=
  if_neg (Nat.not_lt.2 h)

/-- What is foreseen is what the word deserves. -/
theorem reported_nextFault (s : State) : s.Reported s.nextWord s.nextFault := by
  have hword : s.pc.toNat < 4095 → ∀ f, s.nextFault = f ↔ s.Deserves s.nextWord f := by
    intro hpc f
    rw [nextFault, if_pos hpc]
    exact obstacle_decode_iff s s.nextWord f
  refine ⟨⟨fun ⟨hfault, hzero⟩ => ?_, fun hpc => ?_⟩, hword⟩
  · rcases Nat.lt_or_ge s.pc.toNat 4095 with hpc | hpc
    -- The word 0 is a routine of the host processor and cannot leave memory.
    · have hleaves : s.LeavesMemory 0 := hzero ▸ (hword hpc _).1 hfault
      exact absurd hleaves (not_leavesMemory (by decide) (by decide))
    · exact hpc
  · exact ⟨nextFault_of_le hpc, nextWord_of_le hpc⟩

theorem reported_cycle {s : State} (hs : s.fault = none) :
    s.Reported s.cycle.opcode s.cycle.fault := by
  rw [opcode_cycle hs, fault_cycle hs]
  exact reported_nextFault s

theorem Reported.isOwn {s : State} {w : Word} {f : Fault} (h : s.Reported w (some f)) :
    f.IsOwn := by
  rintro code rfl
  rcases Nat.lt_or_ge s.pc.toNat 4095 with hpc | hpc
  · exact (h.word hpc _).1 rfl
  · cases (h.fetch.2 hpc).1

/-! ## The report of a halted machine -/

/-- If the machine is halted, its fault is the true report on the recorded word. -/
def Truthful (s : State) : Prop := s.fault ≠ none → s.Reported s.opcode s.fault

theorem truthful_cycle {s : State} (h : s.Truthful) : s.cycle.Truthful := by
  intro hhalted
  cases hs : s.fault with
  | none =>
    have hcycle := cycle_of_fault hs hhalted
    refine (reported_cycle hs).congr ?_ ?_ ?_ ?_
    all_goals rw [hcycle]
  | some f =>
    have hself : s.cycle = s := cycle_of_halted (isHalted_of_fault hs)
    rw [hself] at hhalted ⊢
    exact h hhalted

theorem Move.truthful {s t : State} (hmove : s.Move t) (h : s.Truthful) : t.Truthful := by
  cases hmove with
  | cycle => exact truthful_cycle h
  | load | refreshKeys | tick =>
    intro hhalted
    refine Reported.congr (s := s) ?_ ?_ ?_ ?_ (h hhalted)
    all_goals rfl
  | resume skip => exact fun hhalted => absurd rfl hhalted

theorem reported_of_reachable {key : Random.Key} {dialect : Dialect} {s : State}
    (h : Reachable key dialect s) : s.Truthful :=
  h.induct (fun hhalted => absurd rfl hhalted) fun _ _ hmove => hmove.truthful

/-! ## What a halted machine tells its host -/

theorem reportUndefined_self (s : State) (strict : Bool) :
    reportUndefined s.undefinedCount s strict = pure () := by
  simp only [reportUndefined, Nat.sub_self, if_true]

theorem result_report_self (s : State) (strict : Bool) :
    (report s s strict).result = s.raiseFault.result := by
  rw [report, reportUndefined_self, Outcome.result_bind]
  rfl

/-- Fault reports are exact when they are made and stay true until they are cleared, and every
call that reports on a halted machine fails with that fault. -/
theorem fault_reports_exact :
    (∀ s : State, s.fault = none →
      s.cycle.opcode = s.nextWord ∧ s.Reported s.cycle.opcode s.cycle.fault) ∧
    ∀ (key : Random.Key) (dialect : Dialect) (s : State), Reachable key dialect s →
      s.fault ≠ none →
        s.Reported s.opcode s.fault ∧
        ∃ f : Fault, s.fault = some f ∧ f.IsOwn ∧
          s.raiseFault.result = .error (.halted f s) ∧
          (∀ strict, (s.step strict).result = .error (.halted f s)) ∧
          ∀ n, (s.run n).result = .error (.halted f s) ∧
            (s.runWithProgress n).1.result = .error (.halted f s) := by
  refine ⟨fun s hs => ⟨opcode_cycle hs, reported_cycle hs⟩, ?_⟩
  intro key dialect s hreach hhalted
  have hreported := reported_of_reachable hreach hhalted
  obtain ⟨f, hf⟩ := Option.ne_none_iff_exists'.1 hhalted
  have hown : f.IsOwn := (hf ▸ hreported).isOwn
  have hraise := result_raiseFault_of_isOwn hf hown
  have hself : s.isHalted = true := by rw [isHalted, hf, Option.isSome_some]
  have hrun : ∀ n, (s.run n).result = .error (.halted f s) := by
    intro n
    rw [result_run, cycles_of_halted n hself, hraise]
  refine ⟨hreported, f, hf, hown, hraise, fun strict => ?_, fun n => ⟨hrun n, ?_⟩⟩
  · rw [step, cycle_of_halted hself, result_report_self, hraise]
  · rw [runWithProgress_fst, hrun n]

/-- A machine that was left at the last byte of memory, and one whose first word returns from
nowhere. -/
theorem fault_reports_exact_return :
    let s : State := { State.powerOn ⟨0, 0⟩ {} with pc := 0xFFF }
    let loaded := ((Session.mk (State.powerOn ⟨0, 0⟩ {}) .empty .forMachine).onState
      (.loadProgram [0x00, 0xEE])).1.subject
    let t := ((Session.mk loaded .empty .forMachine).onState .cycle).1.subject
    s.Reported s.cycle.opcode s.cycle.fault ∧
      t.fault = some .stackUnderflow ∧ t.Reported t.opcode t.fault := by
  intro s loaded t
  have hfault : t.fault = some .stackUnderflow := by decide +kernel
  have hreach : Reachable ⟨0, 0⟩ {} t := .call (.call .powerOn _ _ _ rfl) _ _ _ rfl
  refine ⟨(fault_reports_exact.1 s rfl).2, hfault, ?_⟩
  exact (fault_reports_exact.2 _ _ t hreach (by rw [hfault]; exact Option.some_ne_none _)).1

end State

end Chip8
