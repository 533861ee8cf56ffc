import Chip8.Host
import Chip8.Outcome

/-!
# Programs

A program is a sequence of bytes that is copied into memory from 0x200 on.  It may be given as
loose data; `Program.ofValue` says which data are bytes.  Loading either copies all of it or
changes nothing.
-/

namespace Chip8

/-- A program: its bytes, or only their number if all are zero. -/
inductive Program where
  | bytes (content : List UInt8)
  | zeros (count : Nat)
deriving DecidableEq, Repr

namespace Program

/-- The number of bytes. -/
def size : Program → Nat
  | bytes content => content.length
  | zeros count => count

def toList : Program → List UInt8
  | bytes content => content
  | zeros count => List.replicate count 0

@[simp] theorem length_toList (p : Program) : p.toList.length = p.size := by
  cases p <;> simp [toList, size]

/-- A number as a byte. -/
def byteOfInt (i : Int) : Except Failure UInt8 :=
  if 0 ≤ i ∧ i < 256 then .ok (UInt8.ofNat i.toNat) else .error (.load .itemOutOfRange)

/-- An item of loose data as a byte: a number from 0 to 255, or a flag. -/
def byteOfItem : Value → Except Failure UInt8
  | .int i => byteOfInt i
  | .bool b => .ok (if b then 1 else 0)
  | v => .error (.load (.itemNotInteger v.kind))

/-- Items of loose data as bytes; the first that is none decides the failure. -/
def ofItems (items : List Value) : Except Failure Program :=
  (items.mapM byteOfItem).map bytes

/-- So many zeros.  A number that does not fit 64 bits is refused as such, whatever its
sign. -/
def ofCount (room : Nat) (count : Int) : Except Failure Program :=
  if ¬ FitsInt64 count then .error .countOutOfRange
  else if count < 0 then .error (.load .negativeCount)
  else if maxBlock < count then .error .blockTooLarge
  else if room < count then .error .outOfMemory
  else .ok (zeros count.toNat)

/-- Loose data as a program: a number stands for so many zeros, a list for its items, an object
for its names. -/
def ofValue (room : Nat) : Value → Except Failure Program
  | .int i => ofCount room i
  | .bool b => ofCount room (if b then 1 else 0)
  | .list items => ofItems items
  | .object fields => ofItems (fields.map fun field => .text field.1)
  | .text _ => .error (.load .textWithoutEncoding)
  | v => .error (.load (.notBytes v.kind))

/-- Loose data as a program where only what can be iterated is taken, item by item. -/
def ofIterable (v : Value) : Except Failure Program :=
  match v.items? with
  | some items => ofItems items
  | none => .error (.notIterable v.kind)

end Program

namespace State

/-- Copy a program into memory. -/
def loadProgram (s : State) (p : Program) : Outcome State :=
  if programCapacity < p.size then Outcome.fail (.load (.tooLarge p.size))
  else do
    Outcome.say .debug
      ("Loaded " ++ toString p.size ++ " program bytes at " ++ hexNumber 3 programStart)
    pure { s with memory := s.memory.store programStart p.toList }

/-- Copy a program given as loose data into memory. -/
def loadValue (s : State) (host : Host) (v : Value) : Outcome State := do
  let p ← Outcome.lift (Program.ofValue host.room v)
  s.loadProgram p

/-- Read a program from a file. -/
def readProgram (host : Host) (path : String) : Except Failure Program :=
  if Folder.hasNul path then .error .nulInPath
  else
    match host.files.read path with
    | .ok content =>
      if host.room < content.length then .error .outOfMemory else .ok (.bytes content)
    | .error refusal => .error (.load (.unreadable path refusal))

/-- Copy a file into memory. -/
def loadFile (s : State) (host : Host) (path : String) : Outcome State := do
  let p ← Outcome.lift (readProgram host path)
  Outcome.say .info ("Loading ROM " ++ path)
  s.loadProgram p

end State

end Chip8
