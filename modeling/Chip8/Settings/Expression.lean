import Chip8.Settings.Refusal

/-!
# Expressions

The text of a setting may refer to others: `${key}` stands for the value of the setting with that
key.  An expression is the pieces of such a text (`Expression.ofText?`); a backslash keeps a
reference from being one.
-/

namespace Chip8

/-- A piece of a text that refers to settings. -/
inductive Piece where
  | text (cs : List Char)
  /-- A reference: the pieces of its key. -/
  | reference (key : List Piece)
  /-- A call of a function. -/
  | call (function : List Char)

/-- A text that refers to settings. -/
abbrev Expression := List Piece

namespace Expression

/-- What begins a reference. -/
def opening : List Char := ['$', '\x7b']

/-- Whether something in a text begins a reference. -/
def occursIn : List Char → Bool
  | [] => false
  | c :: cs => opening.isPrefixOf (c :: cs) || occursIn cs

/-! ## References -/

/-- The characters that have a meaning of their own in a reference. -/
def referenceSigns : List Char :=
  ['\\', '\x7b', '\x7d', '(', ')', '[', ']', ':', '.', ' ', '\t', '\'', '"']

/-- Whether a character may stand in the key of a reference. -/
def isKeyChar (c : Char) : Bool := !referenceSigns.contains c

/-- Whether a text may be a part of the name of a function. -/
def isFunctionName (cs : List Char) : Bool :=
  match cs with
  | [] => false
  | c :: rest =>
    (c.isAlpha || c == '_') && rest.all fun c => c.isAlphanum || c == '_' || c == '-'

/-- The signs that the arguments of a function may have besides letters and digits. -/
def argumentSigns : List Char :=
  ['_', '/', '-', '+', '.', '$', '%', '*', '@', '?', '|', ' ', '\t', ':', ',']

/-- What follows the quote that ends a quoted argument. -/
def afterQuote (quote : Char) : List Char → Option (List Char)
  | [] => none
  | '\\' :: _ :: cs => afterQuote quote cs
  | c :: cs => if c == quote then some cs else afterQuote quote cs

/-- What follows the bracket that ends the arguments of a function; `closing` are the brackets that
must come before it.  The number bounds the steps. -/
def afterArguments (steps : Nat) (closing : List Char) (cs : List Char) : Option (List Char) :=
  match steps, cs with
  | 0, _ | _, [] => none
  | steps + 1, c :: rest =>
    if c == '\\' then afterArguments steps closing (rest.drop 1)
    else if c == '\'' || c == '"' then do afterArguments steps closing (← afterQuote c rest)
    else if c == '\x7b' then afterArguments steps ('\x7d' :: closing) rest
    else if c == '[' then afterArguments steps (']' :: closing) rest
    else if c == '\x7d' || c == ']' then
      match closing with
      | [] => if c == '\x7d' then some rest else none
      | d :: closing => if c == d then afterArguments steps closing rest else none
    else if c.isAlphanum || argumentSigns.contains c then afterArguments steps closing rest
    else none

/-- What follows the blanks that come next. -/
def dropBlanks (cs : List Char) : List Char := cs.dropWhile fun c => c == ' ' || c == '\t'

mutual

/-- Read a reference behind what begins it: points, then names in brackets or divided by points.
With a colon behind names divided by points it is a call of a function. -/
def readReference (steps : Nat) (cs : List Char) : Option (Piece × List Char) :=
  match steps with
  | 0 => none
  | steps + 1 => do
    let cs := dropBlanks cs
    let points := cs.takeWhile (· == '.')
    let cs := cs.drop points.length
    let (first, rest) ←
      if cs.head? == some '[' then readBracketed steps cs else readName steps cs
    let (key, rest) ← readParts steps (.text points :: first) rest
    match dropBlanks rest with
    | '\x7d' :: after => some (.reference key, after)
    | _ =>
      match rest, key.mapM textOf? with
      | ':' :: arguments, some parts =>
        let name := parts.flatten
        if (name.splitOn '.').all isFunctionName then
          (afterArguments (arguments.length + 1) [] arguments).map fun after =>
            (.call name, after)
        else none
      | _, _ => none
where
  /-- The text of a piece that refers to nothing. -/
  textOf? : Piece → Option (List Char)
    | .text cs => some cs
    | _ => none

/-- Read the further names of a reference. -/
def readParts (steps : Nat) (key : List Piece) (cs : List Char) :
    Option (List Piece × List Char) :=
  match steps with
  | 0 => none
  | steps + 1 =>
    match cs with
    | '.' :: rest => do
      let (name, rest) ← readName steps rest
      readParts steps (key ++ .text ['.'] :: name) rest
    | '[' :: _ => do
      let (name, rest) ← readBracketed steps cs
      readParts steps (key ++ name) rest
    | _ => some (key, cs)

/-- Read a name in square brackets. -/
def readBracketed (steps : Nat) (cs : List Char) : Option (List Piece × List Char) :=
  match steps with
  | 0 => none
  | steps + 1 => do
    let (name, rest) ← readName steps (cs.drop 1)
    match rest with
    | ']' :: after => some (.text ['['] :: name ++ [.text [']']], after)
    | _ => none

/-- Read a name, which may be a reference itself. -/
def readName (steps : Nat) (cs : List Char) : Option (List Piece × List Char) :=
  match steps with
  | 0 => none
  | steps + 1 =>
    if opening.isPrefixOf cs then
      (readReference steps (cs.drop 2)).map fun (piece, rest) => ([piece], rest)
    else
      let name := cs.takeWhile isKeyChar
      if name.isEmpty then none else some ([.text name], cs.drop name.length)

end

/-! ## Texts -/

/-- Read the pieces of a text.  Of the backslashes before a reference half remain, and with one too
many the reference is a text.  The number bounds the steps. -/
def read (steps : Nat) (cs : List Char) : Option (List Piece) :=
  match steps, cs with
  | _, [] => some []
  | 0, _ => none
  | steps + 1, c :: rest =>
    let slashes := cs.takeWhile (· == '\\')
    let next := cs.drop slashes.length
    if opening.isPrefixOf next then
      let kept := List.replicate (slashes.length / 2) '\\'
      if slashes.length % 2 = 1 then
        (read steps (next.drop 2)).map (.text (kept ++ opening) :: ·)
      else do
        let (piece, after) ← readReference (4 * cs.length + 4) (next.drop 2)
        let pieces ← read steps after
        some (if kept.isEmpty then piece :: pieces else .text kept :: piece :: pieces)
    else if slashes.isEmpty then (read steps rest).map (.text [c] :: ·)
    else (read steps next).map (.text slashes :: ·)

/-- The pieces of a text that refers to settings, if it is well written. -/
def ofText? (s : String) : Option Expression := read (s.length + 1) s.toList

end Expression

end Chip8
