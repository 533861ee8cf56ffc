import Chip8.Proofs.Batch
import Chip8.Proofs.Calls

/-!
# Traces

However a host makes a machine run, what it does comes down to cycles and ticks of the timers.
`State.trace` lists these moments for a history of calls, each cycle with the state that it starts
from.  `State.Timeline` relates a state to those that it comes to through a list of moments, with
loads, refreshes and resumes between them; every history is one (`timeline_afterAll`), so what each
moment keeps holds after all calls and at the start of every cycle on the way (`Timeline.before`).
-/

namespace Chip8

inductive Moment where
  | cycle (start : State)
  | tick

namespace State

/-- The cycles of a batch. -/
def batch : Nat → State → List Moment
  | 0, _ => []
  | n + 1, s => .cycle s :: batch n s.cycle

/-- Whether a step fails at an undefined word, so that its cycle is taken back. -/
def takesBack (s : State) (strict : Bool) : Bool :=
  match (s.step strict).result with
  | .error (.undefinedWord _ _) => true
  | _ => false

/-- The moments of a call. -/
def moments (s : State) : StateRequest → List Moment
  | .cycle => [.cycle s]
  | .step strict => if s.takesBack strict then [] else [.cycle s]
  | .run n _ | .cycles n => batch n s
  | .tick => [.tick]
  | _ => []

/-- The moments of calls one after the other. -/
def trace : State → List (HostCall StateRequest) → List Moment
  | _, [] => []
  | s, c :: cs => s.moments c.request ++ trace (s.after c.host c.console c.request) cs

theorem trace_append (s : State) (cs ds : List (HostCall StateRequest)) :
    s.trace (cs ++ ds) = s.trace cs ++ (s.afterAll cs).trace ds := by
  induction cs generalizing s with
  | nil => rfl
  | cons c cs ih => rw [List.cons_append, trace, ih, trace, List.append_assoc, afterAll_cons]

/-- The first state comes to the last one through these moments. -/
inductive Timeline (s : State) : List Moment → State → Prop
  | start : Timeline s [] s
  | cycle {es : List Moment} {t : State} (h : Timeline s es t) :
      Timeline s (es ++ [.cycle t]) t.cycle
  | tick {es : List Moment} {t : State} (h : Timeline s es t) : Timeline s (es ++ [.tick]) t.tick
  | load {es : List Moment} {t : State} (h : Timeline s es t) (memory : Memory) :
      Timeline s es { t with memory := memory }
  | refreshKeys {es : List Moment} {t : State} (h : Timeline s es t) (keys : Keypad) :
      Timeline s es (t.refreshKeys keys)
  | resume {es : List Moment} {t : State} (h : Timeline s es t) (skip : Bool) :
      Timeline s es (t.resume skip)

/-! ## Timelines -/

theorem Timeline.trans {s t u : State} {es fs : List Moment} (hst : s.Timeline es t)
    (htu : t.Timeline fs u) : s.Timeline (es ++ fs) u := by
  induction htu with
  | start =>
    rw [List.append_nil]
    exact hst
  | cycle _ ih =>
    rw [← List.append_assoc]
    exact ih.cycle
  | tick _ ih =>
    rw [← List.append_assoc]
    exact ih.tick
  | load _ memory ih => exact ih.load memory
  | refreshKeys _ keys ih => exact ih.refreshKeys keys
  | resume _ skip ih => exact ih.resume skip

/-- A cycle starts from the state that the moments before it lead to. -/
theorem Timeline.before {s t u : State} {es earlier : List Moment} (h : s.Timeline es t)
    (hearlier : earlier ++ [.cycle u] <+: es) : s.Timeline earlier u := by
  induction h with
  | start =>
    have hnil := List.prefix_nil.1 hearlier
    exact absurd hnil (List.append_ne_nil_of_right_ne_nil _ (List.cons_ne_nil _ _))
  | cycle h ih =>
    rcases List.prefix_concat_iff.1 hearlier with heq | hearlier
    · obtain ⟨rfl, hlast⟩ := List.append_inj' heq rfl
      cases hlast
      exact h
    · exact ih hearlier
  | tick h ih =>
    rcases List.prefix_concat_iff.1 hearlier with heq | hearlier
    · obtain ⟨-, hlast⟩ := List.append_inj' heq rfl
      cases hlast
    · exact ih hearlier
  | load _ _ ih | refreshKeys _ _ ih | resume _ _ ih => exact ih hearlier

theorem timeline_batch (n : Nat) (s : State) : s.Timeline (batch n s) (s.cycles n) := by
  induction n generalizing s with
  | zero => exact .start
  | succ n ih => exact (Timeline.cycle .start).trans (ih s.cycle)

/-! ## Calls -/

/-- A batch leaves a fault code that stands for no fault only where it finds it. -/
theorem cycles_of_unassigned {n : Nat} {s : State} {code : UInt8}
    (h : (s.cycles n).fault = some (.unassigned code)) : s.cycles n = s := by
  induction n generalizing s with
  | zero => rfl
  | succ n ih =>
    have hcycle : s.cycles (n + 1) = s.cycle := ih h
    rw [hcycle] at h ⊢
    -- No cycle gives such a code itself, so the state was halted before.
    cases hs : s.fault with
    | none =>
      rw [fault_cycle hs] at h
      exact absurd rfl (isOwn_of_nextFault h code)
    | some f => exact cycle_of_halted (isHalted_of_fault hs)

/-- What a report says of undefined words lets the call go on, or ends it for such a word. -/
theorem result_reportUndefined_cases (before : UInt32) (s : State) (strict : Bool) :
    (reportUndefined before s strict).result = .ok () ∨
      ∃ w pc, (reportUndefined before s strict).result = .error (.undefinedWord w pc) := by
  cases strict with
  | false => exact .inl (result_reportUndefined before s)
  | true =>
    simp only [reportUndefined, if_true]
    split
    · exact .inl rfl
    · exact .inr ⟨_, _, rfl⟩

theorem settle_of_raiseFault {o : Outcome State} {before t : State}
    (ho : o.result = t.raiseFault.result)
    (hcode : ∀ code, t.fault = some (.unassigned code) → t = before) : o.settle before = t := by
  unfold Outcome.settle
  rw [ho]
  cases hf : t.fault with
  | none => rw [result_raiseFault_of_none hf]
  | some f =>
    cases f with
    | unassigned code =>
      rw [raiseFault, hf, hcode code hf]
      rfl
    | stackOverflow | stackUnderflow | outOfBounds =>
      rw [result_raiseFault_of_isOwn hf (by rintro code ⟨⟩)]

section

variable (s : State) (host : Host) (console : Console)

theorem after_run (n : Nat) (progress : Bool) :
    s.after host console (.run n progress) = s.cycles n := by
  have hrun : (s.run n).settle s = s.cycles n :=
    settle_of_raiseFault (result_run s n) fun _ => cycles_of_unassigned
  cases progress with
  | false => exact hrun
  | true =>
    change (s.runWithProgress n).1.settle s = s.cycles n
    rw [runWithProgress_fst]
    exact hrun

theorem timeline_step (strict : Bool) :
    s.Timeline (s.moments (.step strict)) (s.after host console (.step strict)) := by
  change s.Timeline (if s.takesBack strict then [] else [.cycle s]) ((s.step strict).settle s)
  -- The word is reported before the fault: its cycle is taken back, or only a fault is left to tell.
  have hstep : (s.step strict).result =
      (reportUndefined s.undefinedCount s.cycle strict).result.bind fun _ =>
        s.cycle.raiseFault.result := Outcome.result_bind _ _
  rcases result_reportUndefined_cases s.undefinedCount s.cycle strict with hok | ⟨w, pc, herr⟩
  · rw [hok] at hstep
    have hkept : s.takesBack strict = false := by
      unfold takesBack
      split
      · next w pc h => exact absurd (hstep.symm.trans h) (result_raiseFault_ne_undefinedWord _ w pc)
      · rfl
    have hsettle : (s.step strict).settle s = s.cycle :=
      settle_of_raiseFault hstep fun code => cycles_of_unassigned (n := 1)
    rw [hkept, hsettle]
    exact Timeline.cycle .start
  · rw [herr] at hstep
    have htaken : s.takesBack strict = true := by
      rw [takesBack, hstep]
      rfl
    have hsettle : (s.step strict).settle s = s := by
      rw [Outcome.settle, hstep]
      rfl
    rw [htaken, hsettle]
    exact .start

theorem timeline_after {r : StateRequest} (hr : r.isHostCall = true) :
    s.Timeline (s.moments r) (s.after host console r) := by
  cases r with
  | edit | execute | fetch => cases hr
  | cycle => exact Timeline.cycle .start
  | step strict => exact s.timeline_step host console strict
  | run n progress =>
    rw [after_run]
    exact timeline_batch n s
  | cycles n => exact timeline_batch n s
  | tick => exact Timeline.tick .start
  | resume skip => exact Timeline.resume .start skip
  | loadProgram content =>
    obtain ⟨memory, heq⟩ := s.after_loadProgram host console content
    rw [heq]
    exact Timeline.load .start memory
  | loadValue v =>
    obtain ⟨memory, heq⟩ := s.after_loadValue host console v
    rw [heq]
    exact Timeline.load .start memory
  | loadFile path =>
    obtain ⟨memory, heq⟩ := s.after_loadFile host console path
    rw [heq]
    exact Timeline.load .start memory
  | setKeys flags =>
    rw [after_setKeys]
    cases (StateRequest.setKeys flags).refresh? with
    | none => exact .start
    | some keys => exact Timeline.refreshKeys .start keys
  | setPressed codes =>
    rw [after_setPressed]
    cases (StateRequest.setPressed codes).refresh? with
    | none => exact .start
    | some keys => exact Timeline.refreshKeys .start keys
  | raiseFault => exact settle_raiseFault (P := s.Timeline []) .start .start
  | soundActive | isHalted => exact .start
  | frame on =>
    simp only [after, Session.onState]
    split
    · exact .start
    · exact .start

end

theorem timeline_afterAll {s : State} {cs : List (HostCall StateRequest)}
    (hcs : ∀ c ∈ cs, c.request.isHostCall = true) : s.Timeline (s.trace cs) (s.afterAll cs) := by
  induction cs generalizing s with
  | nil => exact .start
  | cons c cs ih =>
    obtain ⟨hc, hrest⟩ := List.forall_mem_cons.1 hcs
    exact (s.timeline_after c.host c.console hc).trans (ih hrest)

end State

end Chip8
