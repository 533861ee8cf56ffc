import Chip8.Document.Letter

/-!
# Quoted text

Text between quotes may go on over several lines.  The blanks around a line break are no part of
it, a single line break is a space and further ones stand for themselves (`gapText`).  Between
single quotes only a quote is special, and is written twice; between double quotes a backslash
begins an escape.  A reader gives the text and what follows the closing quote, or nothing if the
text is not well written.
-/

namespace Chip8.Document

/-! ## Gaps -/

/-- The text of line breaks in a row. -/
def joinBreaks : List Char → List Char
  | ['\n'] => [' ']
  | '\n' :: more => more
  | cs => cs

/-- The text of the gap between two words: its blanks if it is within a line, else only its line
breaks, joined. -/
def gapText (gap : List Letter) : List Char :=
  match breaks gap with
  | [] => chars gap
  | bs => joinBreaks bs

/-- The letters of the gap that comes next, after a first one. -/
def gapAfter (rest : List Letter) : List Letter := rest.takeWhile fun a => isSpace a.char

/-! ## Single quotes -/

/-- Read up to the closing single quote. -/
def readSingle (ls : List Letter) : Option (List Char × List Letter) :=
  match ls with
  | [] => none
  | a :: rest =>
    if isSpace a.char then
      let gap := gapAfter rest
      let next := rest.drop gap.length
      if atBoundary next then none
      else (readSingle next).map fun (t, after) => (gapText (a :: gap) ++ t, after)
    else if a.char == '\'' then
      if begins '\'' rest then (readSingle (rest.drop 1)).map fun (t, after) => ('\'' :: t, after)
      else some ([], rest)
    else (readSingle rest).map fun (t, after) => (a.char :: t, after)
termination_by ls.length
decreasing_by
  all_goals
    simp only [List.length_cons, List.length_drop]
    omega

/-! ## Escapes -/

/-- The value of a digit in base 16. -/
def hexDigit? (c : Char) : Option Nat :=
  let n := c.toNat
  if '0' ≤ c ∧ c ≤ '9' then some (n - 48)
  else if 'a' ≤ c ∧ c ≤ 'f' then some (n - 87)
  else if 'A' ≤ c ∧ c ≤ 'F' then some (n - 55)
  else none

/-- The number that digits in base 16 stand for. -/
def hexNumber? (cs : List Char) : Option Nat :=
  (cs.mapM hexDigit?).map fun ds => ds.foldl (fun value d => 16 * value + d) 0

/-- What a letter after a backslash stands for. -/
def escaped? : Char → Option Nat
  | '0' => some 0x00
  | 'a' => some 0x07
  | 'b' => some 0x08
  | 't' => some 0x09
  | '\t' => some 0x09
  | 'n' => some 0x0A
  | 'v' => some 0x0B
  | 'f' => some 0x0C
  | 'r' => some 0x0D
  | 'e' => some 0x1B
  | ' ' => some 0x20
  | '"' => some 0x22
  | '/' => some 0x2F
  | '\\' => some 0x5C
  | 'N' => some 0x85
  | '_' => some 0xA0
  | 'L' => some 0x2028
  | 'P' => some 0x2029
  | _ => none

/-- How many digits of a code point follow a letter after a backslash. -/
def codeLength? : Char → Option Nat
  | 'x' => some 2
  | 'u' => some 4
  | 'U' => some 8
  | _ => none

/-- The character whose code point the next so many digits give. -/
def coded? (length : Nat) (ls : List Letter) : Option Char := do
  let code ← hexNumber? (chars (ls.take length))
  if length ≤ ls.length ∧ code.isValidChar then some (Char.ofNat code) else none

/-! ## Double quotes -/

/-- Read up to the closing double quote.  After a backslash a line break and the blanks around it
are nothing. -/
def readDouble (ls : List Letter) : Option (List Char × List Letter) :=
  match ls with
  | [] => none
  | a :: rest =>
    if isSpace a.char then
      let gap := gapAfter rest
      let next := rest.drop gap.length
      if atBoundary next then none
      else (readDouble next).map fun (t, after) => (gapText (a :: gap) ++ t, after)
    else if a.char == '"' then some ([], rest)
    else if a.char == '\\' then
      match rest with
      | [] => none
      | b :: more =>
        if isBreak b.char then
          let gap := gapAfter more
          let next := more.drop gap.length
          if atBoundary next then none
          else (readDouble next).map fun (t, after) => ((breaks (b :: gap)).drop 1 ++ t, after)
        else
          match codeLength? b.char with
          | some k => do
            let c ← coded? k more
            (readDouble (more.drop k)).map fun (t, after) => (c :: t, after)
          | none => do
            let code ← escaped? b.char
            (readDouble more).map fun (t, after) => (Char.ofNat code :: t, after)
    else (readDouble rest).map fun (t, after) => (a.char :: t, after)
termination_by ls.length
decreasing_by
  all_goals
    simp only [List.length_cons, List.length_drop]
    omega

end Chip8.Document
