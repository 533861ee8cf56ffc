/-!
# Tags

The tag of a node says what kind of value it stands for.  A node may be given a tag; else a
collection has the tag of its kind, text in quotes or in a block is a text, and the tag of plain
text depends on its form (`Tag.ofPlain`).
-/

namespace Chip8.Document

/-- The kinds of values. -/
inductive Tag where
  | null
  | flag
  | int
  /-- A number with a point or an exponent. -/
  | real
  | text
  | bytes
  | time
  /-- A key whose value is merged into the mapping. -/
  | merge
  /-- A key that stands for the mapping's own value. -/
  | value
  | sequence
  | mapping
  | set
  /-- A sequence of single pairs, with each key once. -/
  | orderedMapping
  /-- A sequence of single pairs. -/
  | pairs
  /-- A kind that is not known here. -/
  | other
deriving DecidableEq, Repr

namespace Tag

/-- What the names of the standard kinds begin with. -/
def standard : String := "tag:yaml.org,2002:"

/-- The names of the standard kinds. -/
def names : List (String × Tag) :=
  [("null", null), ("bool", flag), ("int", int), ("float", real), ("str", text),
    ("binary", bytes), ("timestamp", time), ("merge", merge), ("value", value), ("seq", sequence),
    ("map", mapping), ("set", set), ("omap", orderedMapping), ("pairs", pairs)]

/-- The kind that a full name stands for. -/
def ofName (name : String) : Tag :=
  ((names.find? fun e => standard ++ e.1 == name).map Prod.snd).getD other

/-! ## The form of plain text -/

/-- The words for nothing. -/
def nullWords : List String := ["", "~", "null", "Null", "NULL"]

/-- The words for a flag that is set, and for one that is not. -/
def flagWords : List String :=
  ["true", "True", "TRUE", "yes", "Yes", "YES", "on", "On", "ON",
    "false", "False", "FALSE", "no", "No", "NO", "off", "Off", "OFF"]

/-- A text without the sign that it may begin with. -/
def dropSign : List Char → List Char
  | '+' :: cs => cs
  | '-' :: cs => cs
  | cs => cs

/-- Whether a character is a digit or an underscore, which may stand between digits. -/
def isSpacedDigit (c : Char) : Bool := c.isDigit || c == '_'

/-- Whether a text is not empty and has only such characters. -/
def isMadeOf (p : Char → Bool) (cs : List Char) : Bool := !cs.isEmpty && cs.all p

/-- Whether a character is a digit in base 16. -/
def isHexDigit (c : Char) : Bool :=
  c.isDigit || ('a' ≤ c && c ≤ 'f') || ('A' ≤ c && c ≤ 'F')

/-- Whether a text is a digit of base 60: one or two decimal digits, below 60. -/
def isSexagesimalDigit : List Char → Bool
  | [c] => c.isDigit
  | [c, d] => '0' ≤ c && c ≤ '5' && d.isDigit
  | _ => false

/-- Whether a text is a decimal number with parts in base 60 behind it. -/
def isSexagesimal (cs : List Char) : Bool :=
  match cs.splitOn ':' with
  | [] => false
  | whole :: parts => isMadeOf isSpacedDigit whole && parts.all isSexagesimalDigit

/-- Whether a text has the form of an integer, in base 2, 8, 10 or 16 or with parts in base 60. -/
def isInteger (cs : List Char) : Bool :=
  match dropSign cs with
  | ['0'] => true
  | '0' :: 'b' :: ds => isMadeOf (fun c => c == '0' || c == '1' || c == '_') ds
  | '0' :: 'x' :: ds => isMadeOf (fun c => isHexDigit c || c == '_') ds
  | '0' :: ds => ds.all fun c => ('0' ≤ c && c ≤ '7') || c == '_'
  | c :: ds => c.isDigit && isSexagesimal (c :: ds)
  | [] => false

/-- Whether a text is an exponent of ten, behind its letter. -/
def isExponent (signed : Bool) (cs : List Char) : Bool :=
  (!signed || cs.head?.any fun c => c == '+' || c == '-') && isMadeOf Char.isDigit (dropSign cs)

/-- Whether a text is nothing, or an exponent of ten behind its letter. -/
def mayBeExponent (signed : Bool) : List Char → Bool
  | [] => true
  | c :: cs => (c == 'e' || c == 'E') && isExponent signed cs

/-- Whether a text has the form of a number with a point or an exponent. -/
def isReal (cs : List Char) : Bool :=
  let number := dropSign cs
  let whole := number.takeWhile isSpacedDigit
  let further := number.takeWhile fun c => isSpacedDigit c || c == ':'
  match number with
  | '.' :: rest =>
    ["inf", "Inf", "INF"].contains (String.ofList rest) ||
      (number == cs && (["nan", "NaN", "NAN"].contains (String.ofList rest) ||
        (rest.head?.any isSpacedDigit &&
          mayBeExponent true (rest.dropWhile isSpacedDigit))))
  | c :: _ =>
    c.isDigit &&
      match number.drop whole.length with
      | [] => false
      | '.' :: rest => mayBeExponent false (rest.dropWhile isSpacedDigit)
      | ':' :: _ =>
        isSexagesimal further &&
          match number.drop further.length with
          | '.' :: rest => rest.all isSpacedDigit
          | _ => false
      | rest => mayBeExponent false rest
  | [] => false

/-- The kind of value that plain text stands for. -/
def ofPlain (s : String) : Tag :=
  let cs := s.toList
  if nullWords.contains s then null
  else if flagWords.contains s then flag
  else if s == "<<" then merge
  else if s == "=" then value
  else if isInteger cs then int
  else if isReal cs then real
  else text

end Tag

end Chip8.Document
