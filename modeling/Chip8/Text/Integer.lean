import Chip8.Text.Blank
import Chip8.Text.Digit

/-!
# Integers in text

An integer is written in digits of a base, the decimal ones of any script, with an optional sign
and blanks around it; single underscores may separate digits, and a prefix may name the base.
`readInteger` tells a text that is no integer from one with more digits than it takes.
-/

namespace Chip8.Text

/-- Why a text is not read as an integer. -/
inductive IntegerRefusal where
  | malformed
  | tooManyDigits (count : Nat)
deriving DecidableEq, Repr

/-- The greatest number of digits that is read. -/
def maxIntegerDigits : Nat := 4300

/-- The message that a text has more digits than are read. -/
def tooManyDigitsMessage (count : Nat) : String :=
  "Exceeds the limit (" ++ toString maxIntegerDigits ++
    " digits) for integer string conversion: value has " ++ toString count ++
    " digits; use sys.set_int_max_str_digits() to increase the limit"

/-- The value of a digit in a base: a decimal digit, or a letter from ten on. -/
def digitIn? (base : Nat) (c : Char) : Option Nat :=
  let value :=
    match digitValue? c with
    | some d => some d
    | none =>
      if 'a' ≤ c ∧ c ≤ 'z' then some (c.toNat - 87)
      else if 'A' ≤ c ∧ c ≤ 'Z' then some (c.toNat - 55)
      else none
  value.filter (· < base)

/-- Read digits with single underscores between them, up to the first other character.  `value`
and `count` are those of the digits read so far; `none` stands for an underscore out of place. -/
def readDigits (base value count : Nat) : List Char → Option (Nat × Nat × List Char)
  | [] => some (value, count, [])
  | '_' :: c :: cs =>
    if count = 0 then none
    else match digitIn? base c with
      | some d => readDigits base (base * value + d) (count + 1) cs
      | none => none
  | c :: cs =>
    match digitIn? base c with
    | some d => readDigits base (base * value + d) (count + 1) cs
    | none => if c = '_' then none else some (value, count, c :: cs)

/-- The letters of the prefix that names a base. -/
def prefixLetters : Nat → List Char
  | 2 => ['b', 'B']
  | 8 => ['o', 'O']
  | 16 => ['x', 'X']
  | _ => []

/-- A text without the prefix that names its base, and an underscore behind it. -/
def dropPrefix (base : Nat) (cs : List Char) : List Char :=
  match cs with
  | '0' :: c :: '_' :: rest => if (prefixLetters base).contains c then rest else cs
  | '0' :: c :: rest => if (prefixLetters base).contains c then rest else cs
  | _ => cs

/-- Read the digits of an integer, to the end of the text.  Only in base 10 is their number
limited. -/
def readMagnitude (base : Nat) (cs : List Char) : Except IntegerRefusal Nat :=
  match readDigits base 0 0 (dropPrefix base cs) with
  | none => .error .malformed
  | some (value, count, rest) =>
    if count = 0 then .error .malformed
    else if base = 10 ∧ maxIntegerDigits < count then .error (.tooManyDigits count)
    else if rest.isEmpty then .ok value
    else .error .malformed

/-- Read a text as an integer in a base. -/
def readIntegerIn (base : Nat) (s : String) : Except IntegerRefusal Int :=
  match trimBlanks s.toList with
  | '-' :: cs => (readMagnitude base cs).map fun n => -(n : Int)
  | '+' :: cs => (readMagnitude base cs).map Int.ofNat
  | cs => (readMagnitude base cs).map Int.ofNat

/-- Read a text as an integer in base 10. -/
def readInteger (s : String) : Except IntegerRefusal Int := readIntegerIn 10 s

end Chip8.Text
