import Chip8.Console.Request
import Chip8.Machine
import Chip8.Picture

/-!
# Sessions

A session is a state or a machine in the hands of a host, together with a console.  It takes
requests one by one and gives a reply to each; no failure ends it.  Requests that concern only the
host's files and the console are common to both kinds of session.
-/

namespace Chip8

/-- A subject in the hands of a host. -/
structure Session (σ : Type) where
  subject : σ
  host : Host := .empty
  console : Console := .forMachine

/-- A value that a request asks for. -/
inductive Answer where
  | word (w : Word)
  | flag (b : Bool)
  | count (n : Nat)
  | frame (f : Frame)
  /-- A frame that was written to a file. -/
  | saved (f : Frame)
  | screen (d : Display)

/-- What a request leaves besides the changed session: an answer or a failure, the lines that
were printed, the values that the sound listener was given and the events of a progress bar. -/
structure Reply where
  answer : Option Answer := none
  failure : Option Failure := none
  lines : List String := []
  sounds : List Bool := []
  events : List Progress.Event := []

/-- A request that concerns the host's files and the console. -/
inductive DeskRequest where
  | write (path : String) (bytes : List UInt8)
  | delete (path : String)
  /-- Write a picture of the display to a file. -/
  | save (path : String) (scale : Value)
  | setLevel (level : Value)

/-- A request to a state. -/
inductive StateRequest where
  | loadProgram (content : List UInt8)
  | loadValue (v : Value)
  | loadFile (path : String)
  /-- Change the state by hand. -/
  | edit (change : State → State)
  | execute (word : Int)
  | fetch
  | cycle
  | step (strict : Bool)
  | run (n : Nat) (progress : Bool)
  /-- Run without a report. -/
  | cycles (n : Nat)
  | raiseFault
  | resume (skip : Bool)
  | setKeys (flags : Value)
  | setPressed (codes : Value)
  | tick
  | soundActive
  | isHalted
  /-- Show the display, its lit pixels in a grey value. -/
  | frame (on : Value)

/-- A request to a machine. -/
inductive MachineRequest where
  | loadProgram (content : List UInt8)
  | loadValue (v : Value)
  | loadFile (path : String)
  | reset
  /-- Change the state by hand. -/
  | edit (change : State → State)
  | step (strict : Bool)
  | run (n : Nat) (progress : Bool)
  /-- Run for one timer period. -/
  | runFrame
  | resume (skip : Bool)
  | setKeys (flags : Value)
  | setPressed (codes : Value)
  | tick
  | soundActive
  | frame
  | screen
  | instructionsPerFrame

namespace Session

variable {σ : Type}

/-- The session and the reply of an operation on the host's files. -/
def ofFolder (s : Session σ) (path : String) (r : Except FileRefusal Folder) :
    Session σ × Reply :=
  if Folder.hasNul path then (s, { failure := some .nulInPath })
  else
    match r with
    | .ok files => ({ s with host := s.host.withFiles files }, {})
    | .error refusal => (s, { failure := some (.file path refusal) })

/-- Fulfil a request that concerns the host's files and the console. -/
def desk (s : Session σ) (display : Display) : DeskRequest → Session σ × Reply
  | .write path bytes => s.ofFolder path (s.host.files.write path bytes)
  | .delete path => s.ofFolder path (s.host.files.remove path)
  | .save path scale =>
    match display.save scale s.host path with
    | .ok (picture, files) =>
      ({ s with host := s.host.withFiles files }, { answer := some (.saved picture) })
    | .error f => (s, { failure := some f })
  | .setLevel level =>
    match s.console.perform none (.setLevel level) with
    | .ok (console, _) => ({ s with console := console }, {})
    | .error refusal => (s, { failure := some (.console refusal) })

/-- The session and the reply of a call on its state. -/
def ofOutcome (s : Session State) (o : Outcome State) : Session State × Reply :=
  ({ s with subject := o.settle s.subject },
    { failure := o.failure?, lines := s.console.lines o.messages })

/-- A reply that only answers. -/
def answering (s : Session σ) (a : Answer) : Session σ × Reply := (s, { answer := some a })

/-- Fulfil a request to a state. -/
def onState (s : Session State) : StateRequest → Session State × Reply
  | .loadProgram content => s.ofOutcome (s.subject.loadProgram (.bytes content))
  | .loadValue v => s.ofOutcome (s.subject.loadValue s.host v)
  | .loadFile path => s.ofOutcome (s.subject.loadFile s.host path)
  | .edit change => ({ s with subject := change s.subject }, {})
  | .execute word => s.ofOutcome (s.subject.executeInt word)
  | .fetch =>
    let (fetched, word) := s.subject.fetch
    ({ s with subject := fetched }, { answer := some (.word word) })
  | .cycle => ({ s with subject := s.subject.cycle }, {})
  | .step strict => s.ofOutcome (s.subject.step strict)
  | .run n false => s.ofOutcome (s.subject.run n)
  | .run n true =>
    let (o, events) := s.subject.runWithProgress n
    let (s', reply) := s.ofOutcome o
    (s', { reply with events := events })
  | .cycles n => ({ s with subject := s.subject.cycles n }, {})
  | .raiseFault => s.ofOutcome s.subject.raiseFault
  | .resume skip => ({ s with subject := s.subject.resume skip }, {})
  | .setKeys flags => s.ofOutcome (s.subject.setKeys flags)
  | .setPressed codes => s.ofOutcome (s.subject.setPressed codes)
  | .tick => ({ s with subject := s.subject.tick }, {})
  | .soundActive => s.answering (.flag s.subject.soundActive)
  | .isHalted => s.answering (.flag s.subject.isHalted)
  | .frame on =>
    match s.subject.display.greyFrame on with
    | .ok f => s.answering (.frame f)
    | .error f => (s, { failure := some f })

/-- The session and the reply of a response. -/
def ofResponse (s : Session Machine) (r : Response) : Session Machine × Reply :=
  ({ s with subject := r.machine },
    { failure := r.failure, lines := s.console.lines r.messages, sounds := r.sounds })

/-- Fulfil a request to a machine. -/
def onMachine (s : Session Machine) : MachineRequest → Session Machine × Reply
  | .loadProgram content => s.ofResponse (s.subject.loadProgram (.bytes content))
  | .loadValue v => s.ofResponse (s.subject.loadValue v)
  | .loadFile path => s.ofResponse (s.subject.loadFile s.host path)
  | .reset => s.ofResponse (s.subject.reset s.host)
  | .edit change =>
    ({ s with subject := { s.subject with state := change s.subject.state } }, {})
  | .step strict => s.ofResponse (s.subject.step strict)
  | .run n false => s.ofResponse (s.subject.run n)
  | .run n true =>
    let (r, events) := s.subject.runWithProgress n
    let (s', reply) := s.ofResponse r
    (s', { reply with events := events })
  | .runFrame => s.ofResponse s.subject.frame
  | .resume skip => s.ofResponse (s.subject.resume skip)
  | .setKeys flags => s.ofResponse (s.subject.setKeys flags)
  | .setPressed codes => s.ofResponse (s.subject.setPressed codes)
  | .tick => s.ofResponse s.subject.tick
  | .soundActive => s.answering (.flag s.subject.state.soundActive)
  | .frame => s.answering (.frame (s.subject.state.display.frame 255))
  | .screen => s.answering (.screen s.subject.state.display)
  | .instructionsPerFrame =>
    match s.subject.settings.instructionsPerFrame with
    | .ok n => s.answering (.count n)
    | .error f => (s, { failure := some f })

end Session

end Chip8
