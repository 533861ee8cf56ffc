import Chip8.CallStack
import Chip8.Display
import Chip8.Font
import Chip8.Keypad
import Chip8.Random
import Chip8.Word

/-!
# The state of the machine

Everything that an instruction or a host can see or change.  A fault halts the machine until the
host clears it; the state then still points at the instruction that caused it, so that it can be
inspected, tried again or skipped.
-/

namespace Chip8

/-- The two points on which interpreters of the instruction set differ. -/
structure Dialect where
  /-- A shift works on the second register instead of the first. -/
  shiftsSecond : Bool := true
  /-- A jump with offset adds the register that the target's first digit names, not register 0. -/
  jumpsByDigit : Bool := false
deriving DecidableEq, Repr

/-- Why the machine is halted. -/
inductive Fault where
  | stackOverflow
  | stackUnderflow
  | outOfBounds
  /-- A code that the machine never gives itself but that a host can write into a state. -/
  | unassigned (code : UInt8)
deriving DecidableEq, Repr

/-- The state of a machine. -/
@[ext]
structure State where
  memory : Memory
  display : Display
  registers : Vector UInt8 16
  /-- The address register. -/
  index : UInt16
  /-- The address of the next instruction. -/
  pc : UInt16
  stack : CallStack
  delay : UInt8
  sound : UInt8
  keypad : Keypad
  /-- The keys that count as already seen by an instruction that waits for a key. -/
  seenKeys : Keypad
  /-- The key of the next random byte. -/
  random : Random.Key
  /-- The word executed last. -/
  opcode : Word
  fault : Option Fault
  /-- How many undefined words were executed, modulo 2³². -/
  undefinedCount : UInt32
  /-- The undefined word executed last. -/
  lastUndefined : Word
  dialect : Dialect
deriving DecidableEq

namespace Fault

/-- The number that stands for a fault; zero stands for none. -/
def code : Option Fault → UInt8
  | none => 0
  | some stackOverflow => 1
  | some stackUnderflow => 2
  | some outOfBounds => 3
  | some (unassigned c) => c

/-- The fault that a number stands for. -/
def ofCode (c : UInt8) : Option Fault :=
  if c = 0 then none
  else if c = 1 then some stackOverflow
  else if c = 2 then some stackUnderflow
  else if c = 3 then some outOfBounds
  else some (unassigned c)

theorem code_ofCode (c : UInt8) : code (ofCode c) = c := by
  unfold ofCode
  repeat' split
  all_goals simp_all [code]

end Fault

namespace State

/-- Where programs are loaded and execution starts. -/
def programStart : Nat := 0x200

/-- The state at power-on. -/
def powerOn (random : Random.Key) (dialect : Dialect) : State where
  memory := .powerOn
  display := .blank
  registers := Vector.replicate 16 0
  index := 0
  pc := 0x200
  stack := .empty
  delay := 0
  sound := 0
  keypad := .released
  seenKeys := .released
  random := random
  opcode := 0
  fault := none
  undefinedCount := 0
  lastUndefined := 0
  dialect := dialect

/-- Whether a fault has halted the machine. -/
def isHalted (s : State) : Bool := s.fault.isSome

/-- Whether the host should sound the tone. -/
def soundActive (s : State) : Bool := decide (0 < s.sound)

/-- The value of a register. -/
def register (s : State) (x : Register) : UInt8 := s.registers[x]

def setRegister (s : State) (x : Register) (b : UInt8) : State :=
  { s with registers := s.registers.set x b }

/-- The last register. -/
def flagRegister : Register := ⟨15, by decide⟩

/-- Set the last register, which holds the flag of arithmetic and drawing. -/
def setFlag (s : State) (flag : Bool) : State :=
  s.setRegister flagRegister (if flag then 1 else 0)

theorem register_setRegister (s : State) (x y : Register) (b : UInt8) :
    (s.setRegister x b).register y = if x = y then b else s.register y := by
  simp only [register, setRegister, Fin.getElem_fin, Vector.getElem_set, Fin.ext_iff]

/-- Go past the next instruction if a condition holds. -/
def skipIf (s : State) (condition : Bool) : State :=
  if condition then { s with pc := s.pc + 2 } else s

/-- Halt at the instruction that was just fetched. -/
def halt (s : State) (f : Fault) : State :=
  { s with fault := some f, pc := s.pc - 2 }

/-- Let a halted machine go on, at the same instruction or at the one after it. -/
def resume (s : State) (skip : Bool) : State :=
  { s with fault := none, pc := if skip then s.pc + 2 else s.pc }

/-- One tick of both timers: they count down to zero and stay there. -/
def tick (s : State) : State :=
  { s with
    delay := if 0 < s.delay then s.delay - 1 else s.delay
    sound := if 0 < s.sound then s.sound - 1 else s.sound }

/-- A refresh of the keypad by the host; the keys it replaces become the seen ones. -/
def refreshKeys (s : State) (keys : Keypad) : State :=
  { s with seenKeys := s.keypad, keypad := keys }

end State

end Chip8
