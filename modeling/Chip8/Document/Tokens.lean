import Chip8.Document.Block
import Chip8.Document.Label
import Chip8.Document.Plain

/-!
# The tokens of a text

A text is cut into tokens from left to right.  Whether a scalar is a key shows only at the colon
behind it, so the start of what may be a key is kept in mind, for each pair of brackets that is
open, and the key's token is put before it later.  The columns in which blocks began are kept too:
a line that begins left of one ends the block.

Where the text is not well written the tokens end.  Those that may still have become part of a key
do not count then, because nothing could have been decided about them (`Scan.settled`).
-/

namespace Chip8.Document

/-- The start of what may be a key: the number of tokens before it and its place.  Outside of
brackets it must be a key if it begins in the column of the innermost block. -/
structure KeyStart where
  number : Nat
  place : Place
  required : Bool
deriving DecidableEq, Repr

/-- The greatest number of characters of a key that stands before its colon. -/
def maxKeyLength : Nat := 1024

/-- Whether it is too late for a key's colon: a key is in one line, and not too long. -/
def KeyStart.isPast (k : KeyStart) (p : Place) : Bool :=
  k.place.line < p.line || k.place.index + maxKeyLength < p.index

/-- How far a text has been cut into tokens. -/
structure Scan where
  tokens : Array Token := #[]
  rest : List Letter
  /-- The place of the end of the text. -/
  finish : Place
  /-- The columns of the blocks that are open, the innermost first. -/
  columns : List Nat := []
  /-- Whether a key may begin here. -/
  keyAllowed : Bool := true
  /-- What may be a key in the innermost brackets. -/
  keyStart : Option KeyStart := none
  /-- What may be a key in the brackets around them, from the inside out. -/
  outerStarts : List (Option KeyStart) := []
  ended : Bool := false

namespace Scan

/-- The beginning of a text. -/
def ofText (cs : List Char) : Scan :=
  let (letters, finish) := placed .start cs
  { rest := letters, finish := finish }

/-- The place of the next character. -/
def place (s : Scan) : Place := (s.rest.head?.map Letter.place).getD s.finish

/-- Whether brackets are open. -/
def inside (s : Scan) : Bool := !s.outerStarts.isEmpty

def push (t : Token) (s : Scan) : Scan := { s with tokens := s.tokens.push t }

/-- Add a token that stands for the next so many characters. -/
def take (n : Nat) (t : Token) (s : Scan) : Scan :=
  { s.push t with rest := s.rest.drop n }

/-! ## Keys -/

/-- What may be a key remains so, unless its colon is past; then it must not have been required. -/
def stillOpen? (p : Place) : Option KeyStart → Option (Option KeyStart)
  | none => some none
  | some k => if k.isPast p then (if k.required then none else some none) else some (some k)

/-- Forget what can be a key no longer. -/
def forgetPast (s : Scan) : Option Scan := do
  let keyStart ← stillOpen? s.place s.keyStart
  let outerStarts ← s.outerStarts.mapM (stillOpen? s.place)
  some { s with keyStart := keyStart, outerStarts := outerStarts }

/-- What may have been a key is none. -/
def dropKey (s : Scan) : Option Scan :=
  if s.keyStart.any KeyStart.required then none else some { s with keyStart := none }

/-- A key may begin with the next token, if keys are allowed here. -/
def startKey (s : Scan) : Option Scan :=
  if s.keyAllowed then do
    let required := !s.inside && s.columns.head? == some s.place.column
    let start : KeyStart := ⟨s.tokens.size, s.place, required⟩
    (← s.dropKey) |> fun s => some { s with keyStart := some start }
  else some s

/-- Say whether a key may begin next. -/
def allowKey (allowed : Bool) (s : Scan) : Scan := { s with keyAllowed := allowed }

/-! ## Blocks -/

/-- Open a block in a column with a token before the token of a number, unless one is open there or
further right. -/
def openBlock (column number : Nat) (t : Token) (s : Scan) : Scan :=
  if !s.inside && s.columns.head?.all (· < column) then
    { s with columns := column :: s.columns, tokens := s.tokens.insertIdxIfInBounds number t }
  else s

/-- Close the blocks that are open right of a column, or all of them. -/
def closeBlocks (column : Option Nat) (s : Scan) : Scan :=
  if s.inside then s
  else
    let isRight (c : Nat) : Bool := column.all (· < c)
    let closed := s.columns.takeWhile isRight
    { s with
      columns := s.columns.dropWhile isRight
      tokens := s.tokens ++ List.replicate closed.length Token.blockEnd }

/-! ## Blanks and comments -/

/-- Drop blanks, line breaks and comments, and say whether a key may begin behind them: outside of
brackets one may at the start of a line, which then is not indented by tabs. -/
def dropSpace (inside keyAllowed comment : Bool) : List Letter → Bool × List Letter
  | [] => (keyAllowed, [])
  | a :: rest =>
    if isBreak a.char then dropSpace inside (keyAllowed || !inside) false rest
    else if comment || a.char == ' ' || (a.char == '\t' && (inside || !keyAllowed)) ||
        (a.place.index == 0 && a.char == orderMark) then
      dropSpace inside keyAllowed comment rest
    else if a.char == '#' then dropSpace inside keyAllowed true rest
    else (keyAllowed, a :: rest)

/-- Go on to the next token. -/
def skip (s : Scan) : Scan :=
  let (keyAllowed, rest) := dropSpace s.inside s.keyAllowed false s.rest
  { s with keyAllowed := keyAllowed, rest := rest }

/-! ## Tokens -/

/-- The end of the text closes all blocks, and ends the line for every colon still expected. -/
def takeEnd (s : Scan) : Option Scan := do
  let s ← (s.closeBlocks none).dropKey
  if s.outerStarts.any fun k => k.any KeyStart.required then none
  else some { s.push .finish with keyAllowed := false, ended := true }

/-- A line that separates documents closes all blocks. -/
def takeBoundary (t : Token) (s : Scan) : Option Scan := do
  let s ← (s.closeBlocks none).dropKey
  some ((s.take 3 t).allowKey false)

/-- A directive. -/
def takeDirective (s : Scan) : Option Scan := do
  let s ← (s.closeBlocks none).dropKey
  let (t, rest) ← readDirective (s.rest.drop 1)
  some { (s.push t).allowKey false with rest := rest }

/-- An opening bracket, which may begin a key. -/
def takeOpening (t : Token) (s : Scan) : Option Scan := do
  let s ← s.startKey
  some { (s.take 1 t).allowKey true with
    keyStart := none, outerStarts := s.keyStart :: s.outerStarts }

/-- A closing bracket. -/
def takeClosing (t : Token) (s : Scan) : Option Scan := do
  let s ← s.dropKey
  let s := (s.take 1 t).allowKey false
  match s.outerStarts with
  | [] => some s
  | keyStart :: outerStarts => some { s with keyStart := keyStart, outerStarts := outerStarts }

/-- A comma between items. -/
def takeComma (s : Scan) : Option Scan := do
  let s ← s.dropKey
  some ((s.take 1 .flowEntry).allowKey true)

/-- A dash before an item, which opens a block. -/
def takeDash (s : Scan) : Option Scan :=
  if !s.inside && !s.keyAllowed then none
  else do
    let s ← (s.openBlock s.place.column s.tokens.size .blockSequenceStart).dropKey
    some ((s.take 1 .blockEntry).allowKey true)

/-- A question mark before a key, which opens a block. -/
def takeKeyMark (s : Scan) : Option Scan :=
  if !s.inside && !s.keyAllowed then none
  else do
    let s ← (s.openBlock s.place.column s.tokens.size .blockMappingStart).dropKey
    some ((s.take 1 .key).allowKey (!s.inside))

/-- A colon before a value.  What may have been a key is one now; without it the colon stands by
itself. -/
def takeColon (s : Scan) : Option Scan :=
  match s.keyStart with
  | some k =>
    let s := { s with tokens := s.tokens.insertIdxIfInBounds k.number .key, keyStart := none }
    let s := s.openBlock k.place.column k.number .blockMappingStart
    some ((s.take 1 .value).allowKey false)
  | none =>
    if !s.inside && !s.keyAllowed then none
    else
      let s := s.openBlock s.place.column s.tokens.size .blockMappingStart
      some ((s.take 1 .value).allowKey (!s.inside))

/-- A token that may begin a key, made of the next characters. -/
def takeWritten (read : List Letter → Option (Token × List Letter)) (s : Scan) :
    Option Scan := do
  let s ← s.startKey
  let (t, rest) ← read s.rest
  some { (s.push t).allowKey false with rest := rest }

/-- A block of lines. -/
def takeBlock (literal : Bool) (s : Scan) : Option Scan := do
  let s ← s.dropKey
  let (text, rest) ← readBlock literal s.columns.head? (s.rest.drop 1)
  some { (s.push (.scalar (String.ofList text) false)).allowKey true with rest := rest }

/-- A plain scalar.  A key may follow if a line ended behind it. -/
def takePlain (s : Scan) : Option Scan := do
  let s ← s.startKey
  let (text, broken, rest) ← readPlain s.inside (s.columns.head?.elim 0 (· + 1)) s.rest
  some { (s.push (.scalar (String.ofList text) true)).allowKey broken with rest := rest }

/-- The signs that no plain scalar begins with. -/
def reservedSigns : List Char :=
  ['-', '?', ':', ',', '[', ']', '\x7b', '\x7d', '#', '&', '*', '!', '|', '>', '\'', '"', '%', '@',
    Char.ofNat 0x60]

/-- Whether a plain scalar may begin here: not with a sign that has a meaning, unless that sign
has it at the end of a word only. -/
def beginsPlain (inside : Bool) (c : Char) (rest : List Letter) : Bool :=
  !(isSpace c || reservedSigns.contains c) ||
    (c == '-' && !(rest.head?.any fun a => isBlank a.char)) ||
    (!inside && (c == '?' || c == ':') && !atWordEnd rest)

/-- The next token, which its first character decides. -/
def takeToken (s : Scan) : Option Scan :=
  match s.rest with
  | [] => s.takeEnd
  | a :: rest =>
    let c := a.char
    let isSign (sign : Char) : Bool := c == sign && (s.inside || atWordEnd rest)
    if a.place.column == 0 && c == '%' then s.takeDirective
    else if atSeparator '-' s.rest then s.takeBoundary .documentStart
    else if atSeparator '.' s.rest then s.takeBoundary .documentEnd
    else if c == '[' then s.takeOpening .flowSequenceStart
    else if c == '\x7b' then s.takeOpening .flowMappingStart
    else if c == ']' then s.takeClosing .flowSequenceEnd
    else if c == '\x7d' then s.takeClosing .flowMappingEnd
    else if c == ',' then s.takeComma
    else if c == '-' && atWordEnd rest then s.takeDash
    else if isSign '?' then s.takeKeyMark
    else if isSign ':' then s.takeColon
    else if c == '*' then s.takeWritten fun ls =>
      (readName (ls.drop 1)).map fun (name, rest) => (.reference name, rest)
    else if c == '&' then s.takeWritten fun ls =>
      (readName (ls.drop 1)).map fun (name, rest) => (.anchor name, rest)
    else if c == '!' then s.takeWritten fun ls =>
      (readTag s.inside ls).map fun (tag, rest) => (.tag tag.1 tag.2, rest)
    else if c == '|' && !s.inside then s.takeBlock true
    else if c == '>' && !s.inside then s.takeBlock false
    else if c == '\'' then s.takeWritten fun ls =>
      (readSingle (ls.drop 1)).map fun (text, rest) => (.scalar (String.ofList text) false, rest)
    else if c == '"' then s.takeWritten fun ls =>
      (readDouble (ls.drop 1)).map fun (text, rest) => (.scalar (String.ofList text) false, rest)
    else if beginsPlain s.inside c rest then s.takePlain
    else none

/-- Go on by one token and those that it brings with it, or not if the text is not well written. -/
def next? (s : Scan) : Option Scan := do
  let s ← s.skip.forgetPast
  (s.closeBlocks (some s.place.column)).takeToken

/-! ## All tokens -/

/-- The tokens about which nothing more can change: those before the first that may become a
key. -/
def settled (s : Scan) : List Token :=
  let isOpen (k : KeyStart) : Bool := k.required || !k.isPast s.place
  let starts := (s.keyStart :: s.outerStarts).filterMap fun k => k.filter isOpen
  s.tokens.toList.take (starts.foldl (fun n k => min n k.number) s.tokens.size)

/-- Go on to the end of the text.  Each token has a character of its own, so that `steps` need not
be more than these. -/
def toEnd (steps : Nat) (s : Scan) : List Token :=
  match steps with
  | 0 => s.settled
  | steps + 1 =>
    if s.ended then s.tokens.toList
    else
      match s.next? with
      | some s => toEnd steps s
      | none => s.settled

end Scan

/-- The tokens of a text: up to its end, which is a token too, or as far as it is well written. -/
def tokens (cs : List Char) : List Token := (Scan.ofText cs).toEnd (cs.length + 2)

end Chip8.Document
