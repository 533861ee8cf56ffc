import Chip8.Proofs.Reset
import Mathlib.Data.Rat.Floor

/-!
# Machines in step with states

A machine adds a cartridge and a listener to a state, and neither finds its way into the state.
Every operation but a reset stands for calls on the state alone, made one after the other until one
fails (`MachineRequest.forwards`).  So a host that makes these calls itself has the state of the
machine, and runs into its failures, after every operation (`machine_in_step`).
-/

namespace Chip8

/-! ## The timer period -/

/-- The instructions between two ticks: the quotient of the frequencies rounded down, at least
one. -/
def Settings.period (s : Settings) : Nat :=
  (max 1 ⌊(s.instructionFrequency : ℚ) / s.timerFrequency⌋).toNat

theorem floor_div_eq_fdiv (a b : ℤ) : ⌊(a : ℚ) / b⌋ = a.fdiv b := by
  obtain ⟨d, rfl | rfl⟩ := b.eq_nat_or_neg
  · rw [Int.fdiv_eq_ediv_of_nonneg a (Int.natCast_nonneg d)]
    exact Rat.floor_intCast_div_natCast a d
  · have hflip : (a : ℚ) / ((-(d : ℤ) : ℤ) : ℚ) = ((-a : ℤ) : ℚ) / (d : ℕ) := by
      push_cast
      rw [div_neg, neg_div]
    rw [hflip, Rat.floor_intCast_div_natCast,
      ← Int.fdiv_eq_ediv_of_nonneg (-a) (Int.natCast_nonneg d), ← Int.neg_fdiv_neg a (-d), neg_neg]

theorem Settings.instructionsPerFrame_eq_period {s : Settings} (h : s.timerFrequency ≠ 0) :
    s.instructionsPerFrame = .ok s.period := by
  rw [instructionsPerFrame, if_neg h, period, floor_div_eq_fdiv]

/-! ## Calls on the state alone -/

namespace MachineRequest

/-- Whether a request is one that a machine passes on to its state, or only looks at the machine. -/
def isForwarded : MachineRequest → Bool
  | .loadValue _ | .reset | .edit _ => false
  | _ => true

/-- The calls on a state that a request stands for. -/
def forwards (settings : Settings) : MachineRequest → List StateRequest
  | .loadProgram content => [.loadProgram content]
  | .loadFile path => [.loadFile path]
  | .setKeys flags => [.setKeys flags]
  | .setPressed codes => [.setPressed codes]
  | .step strict => [.step strict]
  | .run n progress => [.run n progress]
  | .tick => [.tick]
  | .resume skip => [.resume skip]
  | .runFrame => [.run settings.period false, .tick]
  | _ => []

end MachineRequest

namespace State

/-- The state after calls one after the other up to the first that fails, and that failure. -/
def thread (s : State) (host : Host) (console : Console) :
    List StateRequest → State × Option Failure
  | [] => (s, none)
  | r :: rs =>
    match (s.reply host console r).failure with
    | some f => (s.after host console r, some f)
    | none => (s.after host console r).thread host console rs

/-- The state and the failure after each operation, for a host that has only a state. -/
def record (settings : Settings) : State → List (HostCall MachineRequest) →
    List (State × Option Failure)
  | _, [] => []
  | s, c :: cs =>
    let seen := s.thread c.host c.console (c.request.forwards settings)
    seen :: seen.1.record settings cs

theorem thread_singleton (s : State) (host : Host) (console : Console) (r : StateRequest) :
    s.thread host console [r] = (s.after host console r, (s.reply host console r).failure) := by
  rw [thread]
  split
  · next f hf => rw [hf]
  · next hnone => rw [thread, hnone]

end State

/-- The state and the failure after each operation, for a host that has a machine. -/
def Machine.record : Machine → List (HostCall MachineRequest) → List (State × Option Failure)
  | _, [] => []
  | m, c :: cs => ((m.after c).state, (m.exchange c).reply.failure) :: (m.after c).record cs

/-! ## Responses -/

theorem State.unhalted_loadProgram (s : State) (p : Program) :
    Unhalted (s.loadProgram p).result := by
  unfold loadProgram
  split
  · exact fun _ _ h => nomatch h
  · exact unhalted_ok _

theorem State.unhalted_loadFile (s : State) (host : Host) (path : String) :
    Unhalted (s.loadFile host path).result := by
  rw [loadFile, Outcome.result_bind]
  exact (unhalted_readProgram host path).bind fun p => s.unhalted_loadProgram p

theorem State.unhalted_setKeys (s : State) (flags : Value) : Unhalted (s.setKeys flags).result :=
  (unhalted_ofFlags flags).map s.refreshKeys

theorem State.unhalted_setPressed (s : State) (codes : Value) :
    Unhalted (s.setPressed codes).result :=
  (unhalted_ofCodes codes).map s.refreshKeys

theorem Outcome.settle_of_unhalted {o : Outcome State} {f : Failure} (before : State)
    (h : o.result = .error f) (hf : ∀ fault s, f ≠ .halted fault s) :
    o.settle before = before := by
  rw [settle, h]
  cases f with
  | halted fault s => exact absurd rfl (hf fault s)
  | _ => rfl

/-- A response leaves the state and the failure of a call on the state. -/
structure Response.Follows (r : Response) (before : State) (o : Outcome State) : Prop where
  state : r.machine.state = o.settle before
  failure : r.failure = o.failure?

theorem Response.Follows.seen {r : Response} {before : State} {o : Outcome State}
    (h : r.Follows before o) : (r.machine.state, r.failure) = (o.settle before, o.failure?) := by
  rw [h.state, h.failure]

namespace Machine

section Responses

variable (m : Machine) {o : Outcome State}

theorem state_notifyAfter (s : State) (messages : List Message) (failure : Option Failure) :
    ({ m with state := s }.notifyAfter messages failure).machine.state = s := by
  rw [machine_notifyAfter]

theorem follows_refuse {f : Failure} (hf : o.result = .error f)
    (hunhalted : ∀ fault s, f ≠ .halted fault s) :
    (m.refuse o.messages f).Follows m.state o :=
  ⟨(Outcome.settle_of_unhalted m.state hf hunhalted).symm, (Outcome.failure?_of_error hf).symm⟩

theorem follows_adopt (ho : Unhalted o.result) : (m.adopt o).Follows m.state o := by
  unfold adopt
  split
  · next s hs => exact ⟨(Outcome.settle_of_ok m.state hs).symm, (Outcome.failure?_of_ok hs).symm⟩
  · next f hf => exact m.follows_refuse hf fun fault s h => ho fault s (h ▸ hf)

theorem follows_insert (k : Cartridge) (ho : Unhalted o.result) :
    (m.insert k o).Follows m.state o := by
  unfold insert
  split
  · next s hs => exact ⟨(Outcome.settle_of_ok m.state hs).symm, (Outcome.failure?_of_ok hs).symm⟩
  · next f hf => exact m.follows_refuse hf fun fault s h => ho fault s (h ▸ hf)

/-- A halted state is kept, and after any other failure the state is the one from before. -/
theorem follows_adoptChecked (o : Outcome State) : (m.adoptChecked o).Follows m.state o := by
  unfold adoptChecked
  split
  · next s hs =>
    refine ⟨?_, (Outcome.failure?_of_ok hs).symm⟩
    rw [state_notifyAfter, Outcome.settle_of_ok m.state hs]
  · next fault s hs =>
    refine ⟨?_, (Outcome.failure?_of_error hs).symm⟩
    rw [state_notifyAfter, Outcome.settle, hs]
  · next f hunhalted hf => exact m.follows_refuse hf fun fault s => hunhalted fault s

end Responses

/-! ## One operation -/

/-- A timer period is a batch, and a tick unless the batch fails. -/
theorem seen_frame (m : Machine) (host : Host) (console : Console)
    (hm : m.settings.timerFrequency ≠ 0) :
    (m.frame.machine.state, m.frame.failure) =
      m.state.thread host console [.run m.settings.period false, .tick] := by
  have hrun : (m.run m.settings.period).Follows m.state (m.state.run m.settings.period) :=
    m.follows_adoptChecked _
  have hreply : (m.state.reply host console (.run m.settings.period false)).failure =
      (m.run m.settings.period).failure := hrun.failure.symm
  have hafter : m.state.after host console (.run m.settings.period false) =
      (m.run m.settings.period).machine.state := hrun.state.symm
  rw [frame, Settings.instructionsPerFrame_eq_period hm, State.thread, hreply, hafter]
  cases hfailure : (m.run m.settings.period).failure with
  | some f =>
    simp only [Response.andThen, hfailure]
  | none =>
    simp only [Response.andThen, hfailure]
    rw [State.thread_singleton, tick, state_notifyAfter]
    rfl

theorem seen_after (m : Machine) {c : HostCall MachineRequest} (hm : m.settings.timerFrequency ≠ 0)
    (hc : c.request.isForwarded = true) :
    ((m.after c).state, (m.exchange c).reply.failure) =
      m.state.thread c.host c.console (c.request.forwards m.settings) := by
  obtain ⟨request, host, console⟩ := c
  cases request with
  | loadValue | reset | edit => cases hc
  | loadProgram content =>
    rw [MachineRequest.forwards, State.thread_singleton]
    exact (m.follows_insert _ (m.state.unhalted_loadProgram (.bytes content))).seen
  | loadFile path =>
    rw [MachineRequest.forwards, State.thread_singleton]
    exact (m.follows_insert _ (m.state.unhalted_loadFile host path)).seen
  | step strict =>
    rw [MachineRequest.forwards, State.thread_singleton]
    exact (m.follows_adoptChecked (m.state.step strict)).seen
  | run n progress =>
    rw [MachineRequest.forwards, State.thread_singleton]
    cases progress with
    | false => exact (m.follows_adoptChecked (m.state.run n)).seen
    | true => exact (m.follows_adoptChecked (m.state.runWithProgress n).1).seen
  | runFrame => exact m.seen_frame host console hm
  | setKeys flags =>
    rw [MachineRequest.forwards, State.thread_singleton]
    exact (m.follows_adopt (m.state.unhalted_setKeys flags)).seen
  | setPressed codes =>
    rw [MachineRequest.forwards, State.thread_singleton]
    exact (m.follows_adopt (m.state.unhalted_setPressed codes)).seen
  | tick =>
    rw [MachineRequest.forwards, State.thread_singleton]
    exact congrArg (·, none) (m.state_notifyAfter m.state.tick [] none)
  | resume skip =>
    rw [MachineRequest.forwards, State.thread_singleton]
    rfl
  | instructionsPerFrame =>
    rw [after, exchange, Session.onMachine, Settings.instructionsPerFrame_eq_period hm]
    rfl
  | soundActive | frame | screen => rfl

/-! ## All operations -/

theorem record_of_settings {settings : Settings} (hsettings : settings.timerFrequency ≠ 0)
    {m : Machine} (hm : m.settings = settings) {cs : List (HostCall MachineRequest)}
    (hcs : ∀ c ∈ cs, c.request.isForwarded = true) : m.record cs = m.state.record settings cs := by
  induction cs generalizing m with
  | nil => rfl
  | cons c cs ih =>
    obtain ⟨hc, hlater⟩ := List.forall_mem_cons.1 hcs
    have hseen := m.seen_after (hm ▸ hsettings) hc
    rw [hm] at hseen
    rw [record, State.record, ← hseen, ih ((m.settings_after c).trans hm) hlater]

/-- A machine is in step with a state that gets the same operations from a host: after every one of
them it has that state, and has failed as the call on the state did or not at all. -/
theorem machine_in_step {settings : Settings} (firstKey : Random.Key)
    (hsettings : settings.timerFrequency ≠ 0) {cs : List (HostCall MachineRequest)}
    (hcs : ∀ c ∈ cs, c.request.isForwarded = true) :
    (new settings firstKey).record cs =
      (State.powerOn firstKey settings.dialect).record settings cs :=
  record_of_settings hsettings rfl hcs

/-- A batch of two instructions starts a tone and ticks; the next instruction returns from nowhere,
step by step and in a period of which the tick is left out; it is skipped, and an undefined word is
refused by a strict step. -/
theorem machine_in_step_faulty :
    let settings : Settings := { instructionFrequency := 120 }
    let cs : List (HostCall MachineRequest) :=
      [{ request := .loadProgram [0x60, 0x05, 0xF0, 0x18, 0x00, 0xEE, 0x80, 0x0F] },
        { request := .runFrame }, { request := .step true }, { request := .runFrame },
        { request := .resume true }, { request := .step true }, { request := .tick }]
    settings.timerFrequency ≠ 0 ∧ (∀ c ∈ cs, c.request.isForwarded = true) ∧
      (new settings ⟨0, 0⟩).record cs =
        (State.powerOn ⟨0, 0⟩ settings.dialect).record settings cs := by
  intro settings cs
  have hsettings : settings.timerFrequency ≠ 0 := by decide
  have hcs : ∀ c ∈ cs, c.request.isForwarded = true := by decide
  exact ⟨hsettings, hcs, machine_in_step ⟨0, 0⟩ hsettings hcs⟩

end Machine

end Chip8
