import Chip8.Outcome
import Chip8.Progress
import Chip8.State.Cycle

/-!
# Steps and runs for the host

`State.step` and `State.run` drive the machine and tell the host what happened: undefined words
are reported by a message, or in a strict step by a failure, and a halted machine by a failure
that carries its state.
-/

namespace Chip8.State

/-- Fail if the machine is halted, after a message that says so. -/
def raiseFault (s : State) : Outcome State :=
  match s.fault with
  | none => pure s
  | some (.unassigned code) => Outcome.fail (.unassignedFault code)
  | some fault => do
    Outcome.say .error (fault.message s)
    Outcome.fail (.halted fault s)

/-- Report the undefined words that were executed since their count was `before`.  A count that
has wrapped around in between is taken for none. -/
def reportUndefined (before : UInt32) (s : State) (strict : Bool) : Outcome Unit :=
  let count := s.undefinedCount.toNat - before.toNat
  if count = 0 then pure ()
  else if strict then Outcome.fail (.undefinedWord s.lastUndefined (s.pc - 2))
  else
    let last := hexNumber 4 s.lastUndefined.toNat
    if count = 1 then Outcome.say .warning ("Unknown opcode " ++ last ++ " ignored")
    else
      Outcome.say .warning
        (toString count ++ " unknown opcodes ignored (last " ++ last ++ ")")

/-- What a host is told of a piece of execution, from the state before and the state after it. -/
def report (before after : State) (strict : Bool) : Outcome State := do
  reportUndefined before.undefinedCount after strict
  raiseFault after

/-- Execute one instruction.  A strict step fails at an undefined word. -/
def step (s : State) (strict : Bool) : Outcome State := report s s.cycle strict

/-- Execute a number of instructions, or up to the first fault. -/
def run (s : State) (n : Nat) : Outcome State := report s (s.cycles n) false

/-- Execute a number of instructions with a progress bar; also gives the events of the bar. -/
def runWithProgress (s : State) (n : Nat) : Outcome State × List Progress.Event :=
  let (after, events) := Progress.scan n (.ofInt n none) {} (fun s _ => s.cycle) s
  (report s after false, events)

/-- Execute a word given as an integer. -/
def executeInt (s : State) (word : Int) : Outcome State :=
  match Word.ofInt? word with
  | some w => pure (s.execute w)
  | none => Outcome.fail (.wordOutOfRange word)

theorem foldl_cycle (n start : Nat) (s : State) :
    (List.range' start n).foldl (fun s _ => s.cycle) s = s.cycles n := by
  induction n generalizing start s with
  | zero => rfl
  | succ n ih => rw [List.range'_succ, List.foldl_cons, ih, cycles]

/-- A progress bar changes nothing but that it is shown. -/
theorem runWithProgress_fst (s : State) (n : Nat) : (s.runWithProgress n).1 = s.run n := by
  change report s (Progress.scan n (.ofInt n none) {} (fun s _ => s.cycle) s).1 false = s.run n
  rw [Progress.fst_scan, List.range_eq_range', foldl_cycle, run]

end Chip8.State
