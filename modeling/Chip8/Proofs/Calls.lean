import Chip8.Proofs.Reachable

/-!
# Histories of calls

A host makes one call after the other, and at each of them there may be other files and another
console.  `State.afterAll` is where such a history of calls takes a state.  What an elementary call
does is known without its replies: a load changes only memory, and a refresh of the keypad either
succeeds with the keypad `StateRequest.refresh?` or changes nothing.

For a machine, `Machine.afterAll` is where a history takes it and `Machine.exchanges` what the host
was told on the way.
-/

namespace Chip8

/-- A request, with the host and the console at that moment. -/
structure HostCall (ρ : Type) where
  request : ρ
  host : Host := .empty
  console : Console := .forMachine

/-- The keypad of a refresh that succeeds. -/
def StateRequest.refresh? : StateRequest → Option Keypad
  | .setKeys flags => (Keypad.ofFlags flags).toOption
  | .setPressed codes => (Keypad.ofCodes codes).toOption
  | _ => none

/-- Whether a request skips the instruction that the machine stands at. -/
def StateRequest.isSkip : StateRequest → Bool
  | .resume skip => skip
  | _ => false

namespace State

/-- The reply to a call of this host with this console. -/
def reply (s : State) (host : Host) (console : Console) (r : StateRequest) : Reply :=
  ((Session.mk s host console).onState r).2

section One

variable (s : State) (host : Host) (console : Console)

theorem after_cycle : s.after host console .cycle = s.cycle := rfl

theorem after_tick : s.after host console .tick = s.tick := rfl

theorem after_resume (skip : Bool) : s.after host console (.resume skip) = s.resume skip := rfl

/-! ## Loads -/

theorem settle_loadProgram (p : Program) :
    ∃ memory, (s.loadProgram p).settle s = { s with memory := memory } := by
  unfold loadProgram
  split
  · exact ⟨s.memory, rfl⟩
  · exact ⟨_, rfl⟩

theorem after_loadProgram (content : List UInt8) :
    ∃ memory, s.after host console (.loadProgram content) = { s with memory := memory } :=
  s.settle_loadProgram (.bytes content)

theorem after_loadValue (v : Value) :
    ∃ memory, s.after host console (.loadValue v) = { s with memory := memory } := by
  refine Outcome.settle_bind (P := fun t => ∃ memory, t = { s with memory := memory })
    ⟨s.memory, rfl⟩ (unhalted_ofValue host.room v) ?_
  intro p
  exact s.settle_loadProgram p

theorem after_loadFile (path : String) :
    ∃ memory, s.after host console (.loadFile path) = { s with memory := memory } := by
  refine Outcome.settle_bind (P := fun t => ∃ memory, t = { s with memory := memory })
    ⟨s.memory, rfl⟩ (unhalted_readProgram host path) ?_
  intro p
  refine Outcome.settle_bind (P := fun t => ∃ memory, t = { s with memory := memory })
    ⟨s.memory, rfl⟩ (unhalted_ok ()) ?_
  intro _
  exact s.settle_loadProgram p

/-! ## Refreshes -/

theorem settle_refresh {r : Except Failure Keypad} (hr : Unhalted r) :
    (Outcome.lift (r.map s.refreshKeys)).settle s = (r.toOption.map s.refreshKeys).getD s := by
  cases r with
  | ok keys => rfl
  | error f =>
    cases f with
    | halted fault t => exact absurd rfl (hr fault t)
    | _ => rfl

theorem after_setKeys (flags : Value) :
    s.after host console (.setKeys flags) =
      ((StateRequest.setKeys flags).refresh?.map s.refreshKeys).getD s :=
  s.settle_refresh (unhalted_ofFlags flags)

theorem after_setPressed (codes : Value) :
    s.after host console (.setPressed codes) =
      ((StateRequest.setPressed codes).refresh?.map s.refreshKeys).getD s :=
  s.settle_refresh (unhalted_ofCodes codes)

theorem after_of_refresh {r : StateRequest} {keys : Keypad} (h : r.refresh? = some keys) :
    s.after host console r = s.refreshKeys keys := by
  cases r with
  | setKeys flags =>
    rw [after_setKeys, h]
    rfl
  | setPressed codes =>
    rw [after_setPressed, h]
    rfl
  | _ => cases h

/-! ## Interventions -/

/-- Between two cycles a call changes the keys only by a refresh and the program counter only by a
skip, and it leaves alone what is not named here. -/
theorem after_of_ne_cycle {r : StateRequest} (hr : r.isElementary = true) (hcycle : r ≠ .cycle) :
    ∃ memory delay sound fault, s.after host console r =
      { (r.refresh?.map s.refreshKeys).getD s with
        memory := memory
        delay := delay
        sound := sound
        fault := fault
        pc := if r.isSkip then s.pc + 2 else s.pc } := by
  cases r with
  | cycle => exact absurd rfl hcycle
  | loadProgram content =>
    obtain ⟨memory, h⟩ := s.after_loadProgram host console content
    exact ⟨memory, s.delay, s.sound, s.fault, h⟩
  | loadValue v =>
    obtain ⟨memory, h⟩ := s.after_loadValue host console v
    exact ⟨memory, s.delay, s.sound, s.fault, h⟩
  | loadFile path =>
    obtain ⟨memory, h⟩ := s.after_loadFile host console path
    exact ⟨memory, s.delay, s.sound, s.fault, h⟩
  | setKeys flags =>
    refine ⟨s.memory, s.delay, s.sound, s.fault, ?_⟩
    rw [after_setKeys]
    cases (StateRequest.setKeys flags).refresh? with
    | _ => rfl
  | setPressed codes =>
    refine ⟨s.memory, s.delay, s.sound, s.fault, ?_⟩
    rw [after_setPressed]
    cases (StateRequest.setPressed codes).refresh? with
    | _ => rfl
  | tick => exact ⟨s.memory, s.tick.delay, s.tick.sound, s.fault, rfl⟩
  | resume skip => exact ⟨s.memory, s.delay, s.sound, none, rfl⟩
  | _ => cases hr

end One

/-! ## Histories -/

/-- The state after calls one after the other. -/
def afterAll (s : State) (cs : List (HostCall StateRequest)) : State :=
  cs.foldl (fun t c => t.after c.host c.console c.request) s

@[simp] theorem afterAll_nil (s : State) : s.afterAll [] = s := rfl

@[simp] theorem afterAll_cons (s : State) (c : HostCall StateRequest)
    (cs : List (HostCall StateRequest)) :
    s.afterAll (c :: cs) = (s.after c.host c.console c.request).afterAll cs := rfl

theorem afterAll_induct {P : State → Prop} {s : State} {cs : List (HostCall StateRequest)}
    (h : P s) (hstep : ∀ t, P t → ∀ c ∈ cs, P (t.after c.host c.console c.request)) :
    P (s.afterAll cs) :=
  List.foldlRecOn cs _ h hstep

theorem afterAll_append (s : State) (cs ds : List (HostCall StateRequest)) :
    s.afterAll (cs ++ ds) = (s.afterAll cs).afterAll ds :=
  List.foldl_append

end State

/-- The keypads of the refreshes that succeed, in order. -/
def refreshes (cs : List (HostCall StateRequest)) : List Keypad :=
  cs.filterMap fun c => c.request.refresh?

theorem refreshes_cons (c : HostCall StateRequest) (cs : List (HostCall StateRequest)) :
    refreshes (c :: cs) = c.request.refresh?.toList ++ refreshes cs := by
  cases hrefresh : c.request.refresh? with
  | none => simp [refreshes, hrefresh]
  | some keys => simp [refreshes, hrefresh]

/-! ## Histories of machines -/

/-- A request to a machine and the reply to it. -/
structure Exchange where
  request : MachineRequest
  reply : Reply

namespace Machine

/-- The machine after a call. -/
def after (m : Machine) (c : HostCall MachineRequest) : Machine :=
  ((Session.mk m c.host c.console).onMachine c.request).1.subject

/-- The exchange of a call. -/
def exchange (m : Machine) (c : HostCall MachineRequest) : Exchange :=
  ⟨c.request, ((Session.mk m c.host c.console).onMachine c.request).2⟩

/-- The machine after calls one after the other. -/
def afterAll (m : Machine) (cs : List (HostCall MachineRequest)) : Machine := cs.foldl after m

/-- The exchanges of calls one after the other. -/
def exchanges : Machine → List (HostCall MachineRequest) → List Exchange
  | _, [] => []
  | m, c :: cs => m.exchange c :: (m.after c).exchanges cs

theorem afterAll_concat (m : Machine) (cs : List (HostCall MachineRequest))
    (c : HostCall MachineRequest) : m.afterAll (cs ++ [c]) = (m.afterAll cs).after c :=
  List.foldl_append

theorem exchanges_concat (m : Machine) (cs : List (HostCall MachineRequest))
    (c : HostCall MachineRequest) :
    m.exchanges (cs ++ [c]) = m.exchanges cs ++ [(m.afterAll cs).exchange c] := by
  induction cs generalizing m with
  | nil => rfl
  | cons d cs ih =>
    rw [List.cons_append, exchanges, ih]
    rfl

end Machine

end Chip8
