import Chip8.Program
import Chip8.Settings
import Chip8.State.Keys
import Chip8.State.Step

/-!
# Machines

A machine keeps a state for an interactive host, remembers what was loaded last so that it can
be reset, and tells the host when the tone starts and stops.  Its operations are those on states;
a `Response` adds the values that the sound listener was given.
-/

namespace Chip8

/-- What a reset loads again. -/
inductive Cartridge where
  | program (p : Program)
  | file (path : String)
deriving DecidableEq, Repr

/-- Load what a machine was loaded with, if anything, into a state. -/
def Cartridge.load (host : Host) (s : State) : Option Cartridge → Outcome State
  | none => pure s
  | some (.program p) => s.loadProgram p
  | some (.file path) => s.loadFile host path

/-- A machine in the hands of a host. -/
structure Machine where
  settings : Settings
  /-- The key of the first random byte after power-on. -/
  firstKey : Random.Key
  cartridge : Option Cartridge
  state : State
  /-- What the sound listener was told last. -/
  toneHeard : Bool

/-- What an operation on a machine leaves: the machine, the messages, the values that the sound
listener was given, and the failure, if there was one. -/
structure Response where
  machine : Machine
  messages : List Message
  sounds : List Bool
  failure : Option Failure

/-- One response after another, the second from the machine that the first leaves. -/
def Response.andThen (r : Response) (next : Machine → Response) : Response :=
  match r.failure with
  | some _ => r
  | none =>
    let r' := next r.machine
    ⟨r'.machine, r.messages ++ r'.messages, r.sounds ++ r'.sounds, r'.failure⟩

namespace Machine

/-- The state at power-on. -/
def powerOnState (m : Machine) : State := State.powerOn m.firstKey m.settings.dialect

def new (settings : Settings) (firstKey : Random.Key) : Machine where
  settings := settings
  firstKey := firstKey
  cartridge := none
  state := State.powerOn firstKey settings.dialect
  toneHeard := false

/-- Tell the sound listener if the tone has started or stopped since it was last told. -/
def notify (m : Machine) : Response :=
  let active := m.state.soundActive
  if active = m.toneHeard then ⟨m, [], [], none⟩
  else
    ⟨{ m with toneHeard := active },
      [⟨.debug, if active then "Sound on" else "Sound off"⟩], [active], none⟩

/-- A response that fails and leaves the machine alone. -/
def refuse (m : Machine) (messages : List Message) (f : Failure) : Response :=
  ⟨m, messages, [], some f⟩

/-- Put messages and a failure around a notification. -/
def notifyAfter (m : Machine) (messages : List Message) (failure : Option Failure) : Response :=
  let r := m.notify
  ⟨r.machine, messages ++ r.messages, r.sounds, failure⟩

theorem machine_notifyAfter (m : Machine) (messages : List Message) (failure : Option Failure) :
    (m.notifyAfter messages failure).machine = { m with toneHeard := m.state.soundActive } := by
  simp only [notifyAfter, notify]
  split
  · next hsame => rw [hsame]
  · rfl

/-- Take over the state of a call that never concerns the sound listener. -/
def adopt (m : Machine) (o : Outcome State) : Response :=
  match o.result with
  | .ok s => ⟨{ m with state := s }, o.messages, [], none⟩
  | .error f => m.refuse o.messages f

/-- Take over the state of a piece of execution.  A halted state is kept as well; any other
failure leaves the machine as it was. -/
def adoptChecked (m : Machine) (o : Outcome State) : Response :=
  match o.result with
  | .ok s => { m with state := s }.notifyAfter o.messages none
  | .error (.halted fault s) =>
    { m with state := s }.notifyAfter o.messages (some (.halted fault s))
  | .error f => m.refuse o.messages f

/-! ## Operations -/

/-- Load what is put into the machine; from then on a reset loads it again. -/
def insert (m : Machine) (c : Cartridge) (o : Outcome State) : Response :=
  match o.result with
  | .ok s => ⟨{ m with state := s, cartridge := some c }, o.messages, [], none⟩
  | .error f => m.refuse o.messages f

def loadProgram (m : Machine) (p : Program) : Response :=
  m.insert (.program p) (m.state.loadProgram p)

/-- Load a program given as loose data. -/
def loadValue (m : Machine) (v : Value) : Response :=
  match Program.ofIterable v with
  | .ok p => m.loadProgram p
  | .error f => m.refuse [] f

def loadFile (m : Machine) (host : Host) (path : String) : Response :=
  m.insert (.file path) (m.state.loadFile host path)

/-- Go back to power-on and load again what was loaded last.  If that fails, the machine stays at
power-on and the sound listener is not told. -/
def reset (m : Machine) (host : Host) : Response :=
  let cleared := { m with state := m.powerOnState }
  let o := Cartridge.load host m.powerOnState m.cartridge
  match o.result with
  | .ok s => { cleared with state := s }.notifyAfter o.messages none
  | .error f => cleared.refuse o.messages f

def step (m : Machine) (strict : Bool) : Response := m.adoptChecked (m.state.step strict)

/-- Execute a number of instructions. -/
def run (m : Machine) (n : Nat) : Response := m.adoptChecked (m.state.run n)

/-- Execute a number of instructions with a progress bar; also gives the events of the bar. -/
def runWithProgress (m : Machine) (n : Nat) : Response × List Progress.Event :=
  let (o, events) := m.state.runWithProgress n
  (m.adoptChecked o, events)

def tick (m : Machine) : Response := { m with state := m.state.tick }.notifyAfter [] none

/-- Execute the instructions of one timer period, then let the timers tick unless the machine
was halted. -/
def frame (m : Machine) : Response :=
  match m.settings.instructionsPerFrame with
  | .ok n => (m.run n).andThen tick
  | .error f => m.refuse [] f

/-- Let a halted machine go on. -/
def resume (m : Machine) (skip : Bool) : Response :=
  ⟨{ m with state := m.state.resume skip }, [], [], none⟩

/-- Refresh the keypad from flags. -/
def setKeys (m : Machine) (flags : Value) : Response := m.adopt (m.state.setKeys flags)

/-- Refresh the keypad from codes. -/
def setPressed (m : Machine) (codes : Value) : Response := m.adopt (m.state.setPressed codes)

end Machine

end Chip8
