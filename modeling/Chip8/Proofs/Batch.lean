import Chip8.Proofs.Obstacle
import Chip8.State.Step

/-!
# Batches

A batch runs its cycles to the end and reports once, while a host that steps hears of every
instruction.  They agree (`run_eq_steps`): after the first fault a batch only turns over a halted
state, so it ends in the state of the step that failed and fails as that step did.
-/

namespace Chip8

/-- A fault that the machine gives itself. -/
def Fault.IsOwn (f : Fault) : Prop := ∀ code, f ≠ .unassigned code

namespace State

/-- Whether the fault code is one that the machine gives itself, zero included. -/
def OwnFault (s : State) : Prop := ∃ c : UInt8, c ≤ 3 ∧ s.fault = Fault.ofCode c

theorem ownFault_of_none {s : State} (h : s.fault = none) : s.OwnFault := ⟨0, by decide, h⟩

theorem OwnFault.isOwn {s : State} (hs : s.OwnFault) {f : Fault} (hf : s.fault = some f) :
    f.IsOwn := by
  obtain ⟨c, hc, hfault⟩ := hs
  have hcases : c = 0 ∨ c = 1 ∨ c = 2 ∨ c = 3 := by
    have hle := UInt8.le_iff_toNat_le.1 hc
    simp only [← UInt8.toNat_inj, UInt8.reduceToNat] at hle ⊢
    omega
  rintro code rfl
  rw [hf] at hfault
  rcases hcases with rfl | rfl | rfl | rfl <;> cases hfault

/-- No instruction runs into a fault that is not the machine's own. -/
theorem isOwn_of_obstacle {s : State} {i : Instruction} {f : Fault} (h : s.obstacle i = some f) :
    f.IsOwn := by
  rintro code rfl
  cases i <;> simp [obstacle] at h

theorem isOwn_of_nextFault {s : State} {f : Fault} (h : s.nextFault = some f) : f.IsOwn := by
  unfold nextFault at h
  split at h
  · exact isOwn_of_obstacle h
  · cases h
    exact fun code hcode => nomatch hcode

/-! ## What is reported -/

theorem result_raiseFault_of_none {s : State} (h : s.fault = none) :
    s.raiseFault.result = .ok s := by
  rw [raiseFault, h]
  rfl

theorem result_raiseFault_of_isOwn {s : State} {f : Fault} (h : s.fault = some f)
    (hf : f.IsOwn) : s.raiseFault.result = .error (.halted f s) := by
  cases f with
  | unassigned code => exact absurd rfl (hf code)
  | stackOverflow | stackUnderflow | outOfBounds =>
    rw [raiseFault, h]
    rfl

theorem result_raiseFault_ne_undefinedWord (s : State) (w : Word) (pc : UInt16) :
    s.raiseFault.result ≠ .error (.undefinedWord w pc) := by
  unfold raiseFault
  split
  · exact fun h => nomatch h
  · exact fun h => nomatch h
  · exact fun h => nomatch h

theorem result_reportUndefined (before : UInt32) (s : State) :
    (reportUndefined before s false).result = .ok () := by
  simp only [reportUndefined, Bool.false_eq_true, if_false]
  split
  · rfl
  · split
    · rfl
    · rfl

/-- Unless it is strict, a report fails only for a fault. -/
theorem result_report (before after : State) :
    (report before after false).result = after.raiseFault.result := by
  rw [report, Outcome.result_bind, result_reportUndefined]
  rfl

theorem result_step (s : State) : (s.step false).result = s.cycle.raiseFault.result :=
  result_report s s.cycle

theorem result_run (s : State) (n : Nat) : (s.run n).result = (s.cycles n).raiseFault.result :=
  result_report s (s.cycles n)

/-! ## Steps one by one -/

/-- Steps one after the other, up to the first that fails. -/
def steps : Nat → State → Outcome State
  | 0, s => pure s
  | n + 1, s => s.step false >>= steps n

theorem result_steps_succ {s t : State} (n : Nat) (h : (s.step false).result = .ok t) :
    (s.steps (n + 1)).result = (t.steps n).result := by
  rw [steps, Outcome.result_bind, h]
  rfl

/-- Steps either all succeed and end where the cycles do, or the first that fails has the state in
which the cycles end, halted. -/
theorem steps_cases (n : Nat) {s : State} (hs : s.OwnFault) :
    ((s.steps n).result = .ok (s.cycles n) ∧ (0 < n → (s.cycles n).fault = none)) ∨
      ∃ k u f, k < n ∧ (s.steps k).result = .ok u ∧
        (u.step false).result = .error (.halted f (s.cycles n)) ∧
        (s.cycles n).fault = some f ∧ f.IsOwn := by
  induction n generalizing s with
  | zero => exact .inl ⟨rfl, fun h => absurd h (Nat.lt_irrefl 0)⟩
  | succ n ih =>
    cases hfault : s.cycle.fault with
    | none =>
      have hstep : (s.step false).result = .ok s.cycle := by
        rw [result_step, result_raiseFault_of_none hfault]
      rcases ih (ownFault_of_none hfault) with ⟨hok, hnone⟩ | ⟨k, u, f, hk, hu, herr, hf⟩
      · refine .inl ⟨(result_steps_succ n hstep).trans hok, fun _ => ?_⟩
        cases n with
        | zero => exact hfault
        | succ n => exact hnone (Nat.succ_pos n)
      · exact .inr ⟨k + 1, u, f, Nat.succ_lt_succ hk, (result_steps_succ k hstep).trans hu,
          herr, hf⟩
    | some f =>
      have hhalted := isHalted_of_fault hfault
      have hown : f.IsOwn := by
        cases hs' : s.fault with
        | none => exact isOwn_of_nextFault ((fault_cycle hs').symm.trans hfault)
        | some g =>
          rw [cycle_of_halted (isHalted_of_fault hs')] at hfault
          exact hs.isOwn hfault
      have hcycles : s.cycles (n + 1) = s.cycle := cycles_of_halted n hhalted
      refine .inr ⟨0, s, f, Nat.succ_pos n, rfl, ?_, ?_, hown⟩
      · rw [hcycles, result_step, result_raiseFault_of_isOwn hfault hown]
      · rw [hcycles, hfault]

/-- A batch, with or without a progress bar, has the outcome of single steps: the state after all
of them, or else the very failure of the first that fails. -/
theorem run_eq_steps (s : State) {n : Nat} (hn : 0 < n) (hs : s.OwnFault) :
    ((∃ t, (s.steps n).result = .ok t ∧ (s.run n).result = .ok t ∧ s.cycles n = t) ∨
      ∃ k u f t, k < n ∧ (s.steps k).result = .ok u ∧
        (u.step false).result = .error (.halted f t) ∧
        (s.run n).result = .error (.halted f t) ∧ s.cycles n = t) ∧
      (s.runWithProgress n).1 = s.run n := by
  refine ⟨?_, runWithProgress_fst s n⟩
  rcases steps_cases n hs with ⟨hok, hnone⟩ | ⟨k, u, f, hk, hu, herr, hf, hown⟩
  · refine .inl ⟨s.cycles n, hok, ?_, rfl⟩
    rw [result_run, result_raiseFault_of_none (hnone hn)]
  · refine .inr ⟨k, u, f, s.cycles n, hk, hu, herr, ?_, rfl⟩
    rw [result_run, result_raiseFault_of_isOwn hf hown]

/-- A batch of three cycles over a machine whose second word returns from nowhere. -/
theorem run_eq_steps_return :
    let s : State :=
      { State.powerOn ⟨0, 0⟩ {} with
        memory := Memory.blank.store 0x200 [0x60, 0x01, 0x00, 0xEE] }
    ∃ k u f t, k < 3 ∧ (s.steps k).result = .ok u ∧
      (u.step false).result = .error (.halted f t) ∧
      (s.run 3).result = .error (.halted f t) ∧ s.cycles 3 = t := by
  intro s
  have hown : s.OwnFault := ownFault_of_none rfl
  refine (run_eq_steps s (by decide) hown).1.resolve_left ?_
  rintro ⟨t, -, hrun, -⟩
  have hfault : (s.cycles 3).fault = some .stackUnderflow := by decide +kernel
  rw [result_run, result_raiseFault_of_isOwn hfault (fun _ h => nomatch h)] at hrun
  cases hrun

end State

end Chip8
