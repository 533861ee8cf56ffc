import Chip8.Proofs.Tone
import Mathlib.Data.List.Defs

/-!
# Starts and stops take turns

A listener is told of changes of the tone only, so what it is told from the beginning on is a start,
a stop, a start and so forth (`notices_alternate`).  A call tells it at most once, and then what
holds when the call ends (`Machine.Tells`).  The exception is a timer period, which may tell it once
after the instructions and once after the tick.
-/

namespace Chip8

/-! ## Changes -/

/-- Values that a listener is given, each the opposite of what it knew; first it knows one value,
and last another. -/
inductive Changes : Bool → List Bool → Bool → Prop
  | nil (b : Bool) : Changes b [] b
  | cons {b b' : Bool} {bs : List Bool} (h : Changes (!b) bs b') : Changes b ((!b) :: bs) b'

namespace Changes

variable {b b' b'' : Bool} {bs cs : List Bool}

theorem append (h : Changes b bs b') (h' : Changes b' cs b'') : Changes b (bs ++ cs) b'' := by
  induction h with
  | nil b => exact h'
  | cons _ ih => exact .cons (ih h')

theorem eq_iterate (h : Changes b bs b') : bs = List.iterate not (!b) bs.length := by
  induction h with
  | nil b => rfl
  | cons _ ih =>
    rw [List.length_cons, List.iterate, ← ih]

end Changes

/-- Whether a request is to run for one timer period. -/
def MachineRequest.isPeriod : MachineRequest → Bool
  | .runFrame => true
  | _ => false

namespace Machine

/-! ## One call -/

/-- On the way to another machine a listener is told nothing, or once that the tone has changed. -/
inductive Tells (m : Machine) : List Bool → Machine → Prop
  | nothing {m' : Machine} (heard : m'.toneHeard = m.toneHeard) : Tells m [] m'
  | once {m' : Machine} (heard : m'.toneHeard = !m.toneHeard)
      (current : m'.state.soundActive = !m.toneHeard) : Tells m [!m.toneHeard] m'

section Tells

variable {m m' : Machine} {bs : List Bool}

theorem Tells.changes (h : m.Tells bs m') : Changes m.toneHeard bs m'.toneHeard := by
  cases h with
  | nothing heard =>
    rw [heard]
    exact .nil _
  | once heard _ =>
    rw [heard]
    exact .cons (.nil _)

theorem Tells.length_le (h : m.Tells bs m') : bs.length ≤ 1 := by
  cases h with
  | nothing => exact Nat.zero_le 1
  | once => exact Nat.le_refl 1

theorem Tells.current (h : m.Tells bs m') : ∀ b ∈ bs, b = m'.state.soundActive := by
  intro b hb
  cases h with
  | nothing => cases hb
  | once _ current => rw [List.mem_singleton.1 hb, current]

theorem tells_of_quiet {r : Response} (hr : r.Quiet m) :
    m.Tells r.sounds r.machine := by
  rw [hr.sounds]
  exact .nothing hr.toneHeard

end Tells

section Responses

variable (m : Machine)

theorem tells_notifyAfter (s : State) (messages : List Message) (failure : Option Failure) :
    m.Tells ({ m with state := s }.notifyAfter messages failure).sounds
      ({ m with state := s }.notifyAfter messages failure).machine := by
  simp only [notifyAfter, notify]
  split
  · exact .nothing rfl
  · next hchanged =>
    have hopposite : s.soundActive = !m.toneHeard := Bool.eq_not_of_ne hchanged
    rw [hopposite]
    exact .once rfl hopposite

theorem tells_adoptChecked (o : Outcome State) :
    m.Tells (m.adoptChecked o).sounds (m.adoptChecked o).machine := by
  unfold adoptChecked
  split
  · exact m.tells_notifyAfter _ _ _
  · exact m.tells_notifyAfter _ _ _
  · exact .nothing rfl

theorem tells_reset (host : Host) : m.Tells (m.reset host).sounds (m.reset host).machine := by
  cases hload : (Cartridge.load host m.powerOnState m.cartridge).result with
  | ok s =>
    rw [reset_of_ok hload]
    exact m.tells_notifyAfter s _ none
  | error f =>
    rw [reset_of_error hload]
    exact .nothing rfl

/-- A timer period tells the listener once for its instructions and once for its tick. -/
theorem changes_frame :
    Changes m.toneHeard m.frame.sounds m.frame.machine.toneHeard ∧ m.frame.sounds.length ≤ 2 := by
  unfold frame
  split
  · next n hn =>
    have hrun : m.Tells (m.run n).sounds (m.run n).machine := m.tells_adoptChecked _
    have htick := (m.run n).machine.tells_notifyAfter (m.run n).machine.state.tick [] none
    unfold Response.andThen
    split
    · exact ⟨hrun.changes, Nat.le_succ_of_le hrun.length_le⟩
    · refine ⟨hrun.changes.append htick.changes, ?_⟩
      rw [List.length_append]
      exact Nat.add_le_add hrun.length_le htick.length_le
  · exact ⟨.nil _, Nat.zero_le 2⟩

end Responses

theorem tells_exchange (m : Machine) {c : HostCall MachineRequest}
    (hc : c.request.isPeriod = false) : m.Tells (m.exchange c).reply.sounds (m.after c) := by
  obtain ⟨request, host, console⟩ := c
  cases request with
  | loadProgram content => exact tells_of_quiet (m.quiet_loadProgram (.bytes content))
  | loadValue v => exact tells_of_quiet (m.quiet_loadValue v)
  | loadFile path => exact tells_of_quiet (m.quiet_loadFile host path)
  | reset => exact m.tells_reset host
  | step strict => exact m.tells_adoptChecked (m.state.step strict)
  | run n progress =>
    cases progress with
    | false => exact m.tells_adoptChecked (m.state.run n)
    | true => exact m.tells_adoptChecked (m.state.runWithProgress n).1
  | runFrame => cases hc
  | setKeys flags => exact tells_of_quiet (m.quiet_refresh (Keypad.ofFlags flags))
  | setPressed codes => exact tells_of_quiet (m.quiet_refresh (Keypad.ofCodes codes))
  | tick => exact m.tells_notifyAfter m.state.tick [] none
  | instructionsPerFrame =>
    rw [after, exchange, Session.onMachine]
    split
    · exact .nothing rfl
    · exact .nothing rfl
  | edit | resume | soundActive | frame | screen => exact .nothing rfl

theorem changes_exchange (m : Machine) (c : HostCall MachineRequest) :
    Changes m.toneHeard (m.exchange c).reply.sounds (m.after c).toneHeard ∧
      (m.exchange c).reply.sounds.length ≤ if c.request.isPeriod then 2 else 1 := by
  cases hc : c.request.isPeriod with
  | false =>
    have htells := m.tells_exchange hc
    exact ⟨htells.changes, htells.length_le⟩
  | true =>
    obtain ⟨request, host, console⟩ := c
    cases request with
    | runFrame => exact m.changes_frame
    | _ => cases hc

/-! ## All calls -/

/-- What a listener is told in calls one after the other. -/
def notices (m : Machine) (cs : List (HostCall MachineRequest)) : List Bool :=
  (m.exchanges cs).flatMap fun e => e.reply.sounds

theorem changes_notices (m : Machine) (cs : List (HostCall MachineRequest)) :
    Changes m.toneHeard (m.notices cs) (m.afterAll cs).toneHeard := by
  induction cs generalizing m with
  | nil => exact .nil _
  | cons c cs ih =>
    rw [notices, exchanges, List.flatMap_cons]
    exact (m.changes_exchange c).1.append (ih (m.after c))

/-- From the beginning on, a listener is told a start, a stop, a start and so forth.  A call tells it
at most once, and then what holds when the call ends; a timer period tells it at most twice. -/
theorem notices_alternate (settings : Settings) (firstKey : Random.Key)
    (cs : List (HostCall MachineRequest)) (c : HostCall MachineRequest) :
    let m := (new settings firstKey).afterAll cs
    let told := (new settings firstKey).notices cs
    told = List.iterate not true told.length ∧
      (m.exchange c).reply.sounds.length ≤ (if c.request.isPeriod then 2 else 1) ∧
      (c.request.isPeriod = false →
        ∀ b ∈ (m.exchange c).reply.sounds, b = (m.after c).state.soundActive) := by
  intro m told
  have htold : Changes false told m.toneHeard := (new settings firstKey).changes_notices cs
  exact ⟨htold.eq_iterate, (m.changes_exchange c).2, fun hc => (m.tells_exchange hc).current⟩

/-- A tone of one tick is started by a batch and stopped by the tick. -/
theorem notices_alternate_tick :
    let cs : List (HostCall MachineRequest) :=
      [{ request := .loadProgram [0x60, 0x01, 0xF0, 0x18] }, { request := .run 2 false }]
    let c : HostCall MachineRequest := { request := .tick }
    let m := (new {} ⟨0, 0⟩).afterAll cs
    (new {} ⟨0, 0⟩).notices cs = [true] ∧ (m.exchange c).reply.sounds = [false] ∧
      c.request.isPeriod = false ∧
      ∀ b ∈ (m.exchange c).reply.sounds, b = (m.after c).state.soundActive := by
  intro cs c m
  exact ⟨by decide +kernel, by decide +kernel, rfl, (notices_alternate {} ⟨0, 0⟩ cs c).2.2 rfl⟩

end Machine

end Chip8
