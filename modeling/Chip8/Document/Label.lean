import Chip8.Document.Quoted
import Chip8.Document.Token

/-!
# Names, tags and directives

Nodes may have names and tags, and lines before a document may say which version of the format it
has and what short forms of tags stand for.  A reader gives what is written and what follows, or
nothing if it is not well written.
-/

namespace Chip8.Document

/-! ## Names -/

/-- The word of a name that comes next. -/
def nameAt (ls : List Letter) : List Letter := ls.takeWhile fun a => isNameChar a.char

/-- The signs that may follow the name of a node without a blank. -/
def nameEnds : List Char := ['?', ':', ',', ']', '\x7d', '%', '@', Char.ofNat 0x60]

/-- Read the name of a node. -/
def readName (ls : List Letter) : Option (String × List Letter) :=
  let name := nameAt ls
  let rest := ls.drop name.length
  if !name.isEmpty && rest.head?.all fun a => isSpace a.char || nameEnds.contains a.char then
    some (String.ofList (chars name), rest)
  else none

/-! ## Tags -/

/-- The characters of a tag besides those of names. -/
def tagSigns : List Char :=
  [';', '/', '?', ':', '@', '&', '=', '+', '$', '.', '!', '~', '*', '\'', '(', ')']

/-- The number of octets of a character that begins with an octet. -/
def octetWidth? (first : Nat) : Option Nat :=
  if first < 0x80 then some 1
  else if first / 0x20 = 6 then some 2
  else if first / 0x10 = 14 then some 3
  else if first / 8 = 30 then some 4
  else none

/-- Octets written with percent signs. -/
def octets? : Nat → List Letter → Option (List Nat)
  | 0, _ => some []
  | n + 1, p :: a :: b :: rest => do
    let octet ← if p.char == '%' then hexNumber? [a.char, b.char] else none
    (octets? n rest).map (octet :: ·)
  | _ + 1, _ => none

/-- The character of an escape that comes next, and how many octets it has. -/
def percentEscape? (ls : List Letter) : Option (Char × Nat) := do
  let first ← octets? 1 ls
  let width ← octetWidth? (first.headD 0)
  match ← octets? width ls with
  | [] => none
  | first :: more =>
    if more.all fun octet => octet / 0x40 == 2 then
      let lead := if width = 1 then first else first % Nat.pow 2 (7 - width)
      some (Char.ofNat (more.foldl (fun code octet => code * 0x40 + octet % 0x40) lead), width)
    else none

/-- Read the characters of a tag, with escapes after a percent sign; in angle brackets a tag may
have some more. -/
def readTagText (further : List Char) (ls : List Letter) : Option (List Char × List Letter) :=
  match ls with
  | [] => some ([], [])
  | a :: rest =>
    if a.char == '%' then do
      let (c, width) ← percentEscape? ls
      (readTagText further (rest.drop (3 * width - 1))).map fun (t, after) => (c :: t, after)
    else if isNameChar a.char || tagSigns.contains a.char || further.contains a.char then
      (readTagText further rest).map fun (t, after) => (a.char :: t, after)
    else some ([], ls)
termination_by ls.length
decreasing_by
  all_goals
    simp only [List.length_cons, List.length_drop]
    omega

/-- The characters that a tag may have in angle brackets only. -/
def bracketSigns : List Char := [',', '[', ']']

/-- The short form of tags that comes next: exclamation marks around a name, or a single one and
what may be the start of a tag. -/
def shortTagAt (ls : List Letter) : List Letter :=
  match ls with
  | [] => []
  | a :: rest =>
    let name := nameAt rest
    a :: name ++ (if begins '!' (rest.drop name.length) then (rest.drop name.length).take 1 else [])

/-- Whether a short form of tags has exclamation marks on both sides. -/
def isClosed (handle : List Letter) : Bool :=
  2 ≤ handle.length && handle.getLast?.any fun a => a.char == '!'

/-- Read a tag: a short form and the rest.  The rest alone is the whole tag if the short form is
empty. -/
def readTag (inside : Bool) (ls : List Letter) : Option ((String × String) × List Letter) := do
  let (tag, after) ←
    if begins '<' (ls.drop 1) then do
      let (text, rest) ← readTagText bracketSigns (ls.drop 2)
      if text.isEmpty || !begins '>' rest then none
      else some (("", String.ofList text), rest.drop 1)
    else do
      let handle := shortTagAt ls
      let (text, rest) ← readTagText [] (ls.drop handle.length)
      if isClosed handle then
        if text.isEmpty then none
        else some ((String.ofList (chars handle), String.ofList text), rest)
      else
        let whole := chars (handle.drop 1) ++ text
        some (if whole.isEmpty then ("", "!") else ("!", String.ofList whole), rest)
  if atWordEnd after || (inside && begins ',' after) then some (tag, after) else none

/-! ## Directives -/

/-- Read a number of at most nine digits. -/
def readNumber (ls : List Letter) : Option (Nat × List Letter) :=
  let digits := ls.takeWhile fun a => a.char.isDigit
  if digits.isEmpty || 9 < digits.length then none
  else
    some (digits.foldl (fun n a => 10 * n + (a.char.toNat - 48)) 0, ls.drop digits.length)

/-- Read a version: two numbers with a point between them. -/
def readVersion (ls : List Letter) : Option (Token × List Letter) := do
  let (major, rest) ← readNumber (dropBlanks ls)
  if begins '.' rest then
    let (minor, rest) ← readNumber (rest.drop 1)
    some (.version major minor, rest)
  else none

/-- Read a short form of tags and what it stands for. -/
def readShortTag (ls : List Letter) : Option (Token × List Letter) := do
  let ls := dropBlanks ls
  let handle := shortTagAt ls
  let rest := ls.drop handle.length
  let (text, after) ← readTagText bracketSigns (dropBlanks rest)
  if begins '!' ls && (isClosed handle || handle.length = 1) &&
      (rest.head?.any fun a => isBlank a.char) && !text.isEmpty && atWordEnd after then
    some (.shortTag (String.ofList (chars handle)) (String.ofList text), after)
  else none

/-- Read a directive behind the percent sign that begins it, to the end of its line. -/
def readDirective (ls : List Letter) : Option (Token × List Letter) := do
  let name := nameAt ls
  let rest := ls.drop name.length
  let (token, rest) ←
    if !atWordEnd rest then none
    else if chars name = "YAML".toList then readVersion rest
    else if chars name = "TAG".toList then readShortTag rest
    else none
  let rest := dropComment rest
  if atLineEnd rest then some (token, dropBreak rest) else none

end Chip8.Document
