import Chip8.Outcome
import Chip8.Value.Sizes

/-!
# Keys from the host

A host refreshes the keypad from sixteen flags, or from the codes of the keys that are down.
Codes are loose data: numbers lose their fraction, and texts are read as integers.  The two ways
meet in `State.refreshKeys`.
-/

namespace Chip8

namespace Keypad

/-- The keypad of a list of flags, one for each key. -/
def ofFlagList (flags : List Bool) : Keypad := ofSet fun k => flags.getD k false

/-- The keypad of flags given as loose data.  Anything but sixteen plain items is refused. -/
def ofFlags (v : Value) : Except Failure Keypad :=
  match v.items? with
  | none => .error (.notIterable v.kind)
  | some items => do
    let sizes ← (Value.list items).sizes
    if sizes = [16] then pure (ofFlagList (Value.truths items)) else throw (.keyShape sizes)

/-- A code as an integer. -/
def codeValue : Value → Except CodeRefusal Int
  | .int i => .ok i
  | .bool b => .ok (if b then 1 else 0)
  | .float x =>
    match x with
    | .infinite _ => .error .infinite
    | .nan => .error .notANumber
    | .finite .. => .ok (x.truncate?.getD 0)
  | .text s =>
    match Text.readInteger s with
    | .ok i => .ok i
    | .error .malformed => .error (.notInteger (Text.quoted s))
    | .error (.tooManyDigits count) => .error (.tooManyDigits count)
  | v => .error (.notNumber v.kind)

/-- The key that a code names. -/
def keyOfCode (v : Value) : Except CodeRefusal (Fin 16) :=
  match codeValue v with
  | .error refusal => .error refusal
  | .ok i =>
    if h : 0 ≤ i ∧ i < 16 then .ok ⟨i.toNat, by omega⟩ else .error (.outOfRange v.shown)

/-- The keypad on which the keys of a list of codes are down; the first bad code decides the
failure. -/
def ofCodes (v : Value) : Except Failure Keypad :=
  match v.items? with
  | none => .error (.notIterable v.kind)
  | some codes =>
    match codes.mapM keyOfCode with
    | .ok keys => .ok (ofSet fun k => keys.contains k)
    | .error refusal => .error (.keyCode refusal)

end Keypad

namespace State

/-- Refresh the keypad from flags. -/
def setKeys (s : State) (flags : Value) : Outcome State :=
  Outcome.lift ((Keypad.ofFlags flags).map s.refreshKeys)

/-- Refresh the keypad from the codes of the keys that are down. -/
def setPressed (s : State) (codes : Value) : Outcome State :=
  Outcome.lift ((Keypad.ofCodes codes).map s.refreshKeys)

end State

end Chip8
