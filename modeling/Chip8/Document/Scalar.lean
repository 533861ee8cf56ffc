import Chip8.Document.Tag
import Chip8.Text.Case
import Chip8.Text.Integer
import Chip8.Text.Quoted

/-!
# Scalars

A scalar is a single value: nothing, a flag, a number, a text or one of a few other kinds.  Its
text is read by its tag (`Scalar.ofText`), which fails if the tag does not suit the text.  Of the
kinds that no setting has, only as much is kept as tells them apart.
-/

namespace Chip8

/-- A single value. -/
inductive Scalar where
  | null
  | flag (b : Bool)
  | int (i : Int)
  /-- A number with a point or an exponent, as it is written. -/
  | real (s : String)
  | text (s : String)
  /-- Bytes, as they are written. -/
  | bytes (s : String)
  /-- A date, as it is written. -/
  | time (s : String)
deriving DecidableEq, Repr

namespace Scalar

/-- Why a text is no value of the kind that its tag says. -/
inductive Refusal where
  /-- A number without a character behind its sign. -/
  | noDigits
  | notInteger (base : Nat) (s : String)
  | tooManyDigits (count : Nat)
  | notReal (s : String)
  | notFlag (s : String)
  | notTime
  /-- A text of a kind that no value is made of. -/
  | noValue
deriving DecidableEq, Repr

/-- The message of a refusal, where there is one. -/
def Refusal.message? : Refusal → Option String
  | noDigits => some "string index out of range"
  | notInteger base s =>
    some ("invalid literal for int() with base " ++ toString base ++ ": " ++
      ((Text.quoted s).take 200).toString)
  | tooManyDigits count => some (Text.tooManyDigitsMessage count)
  | notReal s => some ("could not convert string to float: " ++ Text.quoted s)
  | notFlag s => some (Text.quoted s)
  | notTime => some "'NoneType' object has no attribute 'groupdict'"
  | noValue => none

/-! ## Numbers -/

/-- A text as an integer of a base. -/
def integerIn (base : Nat) (cs : List Char) : Except Refusal Int :=
  let s := String.ofList cs
  (Text.readIntegerIn base s).mapError fun
    | .malformed => .notInteger base s
    | .tooManyDigits count => .tooManyDigits count

/-- A number without its sign: in base 2, 8, 10 or 16, or with parts in base 60 behind colons. -/
def magnitude (cs : List Char) : Except Refusal Int :=
  match cs with
  | [] => .error .noDigits
  | ['0'] => .ok 0
  | '0' :: 'b' :: digits => integerIn 2 digits
  | '0' :: 'x' :: digits => integerIn 16 digits
  | '0' :: _ => integerIn 8 cs
  | _ => do
    let parts ← (cs.splitOn ':').mapM (integerIn 10)
    pure (parts.foldl (fun value part => 60 * value + part) 0)

/-- A text as an integer, in which underscores do not count. -/
def readInt (s : String) : Except Refusal Int :=
  match s.toList.filter (· != '_') with
  | [] => .error .noDigits
  | '-' :: cs => (magnitude cs).map fun i => -i
  | '+' :: cs => magnitude cs
  | cs => magnitude cs

/-- Whether a text is a number as computers write it, perhaps with a point and an exponent. -/
def isNumber (cs : List Char) : Bool :=
  let number := Document.Tag.dropSign (Text.trimBlanks cs)
  let isDigit (c : Char) : Bool := (Text.digitValue? c).isSome
  let whole := number.takeWhile isDigit
  let rest := number.drop whole.length
  let fraction := if rest.head? = some '.' then (rest.drop 1).takeWhile isDigit else []
  let rest := if rest.head? = some '.' then rest.drop (1 + fraction.length) else rest
  ["inf", "infinity", "nan"].contains (String.ofList number) ||
    (!(whole ++ fraction).isEmpty &&
      match rest with
      | [] => true
      | c :: exponent => c == 'e' && Document.Tag.isMadeOf isDigit (Document.Tag.dropSign exponent))

/-- The first part of a text between colons that is no number, if there is one. -/
def firstNonNumber? (cs : List Char) : Option (List Char) :=
  (cs.splitOn ':').find? fun part => !isNumber part

/-- A text as a number with a point or an exponent. -/
def readReal (s : String) : Except Refusal Scalar :=
  match (Text.lower s).toList.filter (· != '_') with
  | [] => .error .noDigits
  | c :: cs =>
    let number := if c == '+' || c == '-' then cs else c :: cs
    if [".inf", ".nan"].contains (String.ofList number) then .ok (real s)
    else
      match firstNonNumber? number with
      | some part => .error (.notReal (String.ofList part))
      | none => .ok (real s)

/-! ## Other kinds -/

/-- A text as a flag. -/
def readFlag (s : String) : Except Refusal Scalar :=
  let word := Text.lower s
  if ["yes", "true", "on"].contains word then .ok (flag true)
  else if ["no", "false", "off"].contains word then .ok (flag false)
  else .error (.notFlag word)

/-- The signs of bytes, in groups of four; `count` are those of the group so far and `pads` the
equals signs that follow it.  Other characters do not count. -/
def isGrouped (count pads : Nat) : List Char → Bool
  | [] => count == 0
  | c :: cs =>
    if c == '=' then
      if 2 ≤ count then (4 ≤ count + pads + 1 || isGrouped count (pads + 1) cs)
      else isGrouped count pads cs
    else if c.isAlphanum || c == '+' || c == '/' then isGrouped ((count + 1) % 4) 0 cs
    else isGrouped count pads cs

/-- A text as bytes. -/
def readBytes (s : String) : Except Refusal Scalar :=
  if s.toList.all (fun c => c.toNat < 0x80) && isGrouped 0 0 s.toList then .ok (bytes s)
  else .error .noValue

/-- Whether a text is a number of so many digits. -/
def isPart (lengths : List Nat) (cs : List Char) : Bool :=
  lengths.contains cs.length && cs.all Char.isDigit

/-- Whether a text is a time of day, perhaps with a fraction and a zone. -/
def isTimeOfDay (cs : List Char) : Bool :=
  match (cs.takeWhile fun c => c.isDigit || c == ':' || c == '.').splitOn ':' with
  | [hour, minute, second] =>
    let whole := second.takeWhile Char.isDigit
    let fraction := second.drop whole.length
    let zone := cs.drop (hour.length + minute.length + second.length + 2)
    isPart [1, 2] hour && isPart [2] minute && isPart [2] whole &&
      (fraction.isEmpty || (fraction.drop 1).all Char.isDigit) &&
      (zone.isEmpty ||
        match zone.dropWhile fun c => c == ' ' || c == '\t' with
        | ['Z'] => true
        | '+' :: shift | '-' :: shift =>
          match shift.splitOn ':' with
          | [hours] => isPart [1, 2] hours
          | [hours, minutes] => isPart [1, 2] hours && isPart [2] minutes
          | _ => false
        | _ => false)
  | _ => false

/-- Whether a text is a date, perhaps with a time of day. -/
def isTime (cs : List Char) : Bool :=
  let date := cs.takeWhile fun c => c.isDigit || c == '-'
  let rest := cs.drop date.length
  match date.splitOn '-' with
  | [year, month, day] =>
    isPart [4] year && isPart [1, 2] month && isPart [1, 2] day &&
      match rest with
      | [] => true
      | c :: more =>
        if c == 'T' || c == 't' then isTimeOfDay more
        else (c == ' ' || c == '\t') &&
          isTimeOfDay (more.dropWhile fun c => c == ' ' || c == '\t')
  | _ => false

/-- A text as a date. -/
def readTime (s : String) : Except Refusal Scalar :=
  if isTime s.toList then .ok (time s) else .error .notTime

/-- The scalar that a text is by its tag. -/
def ofText (tag : Document.Tag) (s : String) : Except Refusal Scalar :=
  match tag with
  | .null => .ok null
  | .flag => readFlag s
  | .int => (readInt s).map int
  | .real => readReal s
  | .text => .ok (text s)
  | .bytes => readBytes s
  | .time => readTime s
  | _ => .error .noValue

end Scalar

end Chip8
