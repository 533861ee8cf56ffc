/-!
# Characters in their places

A document is read as a list of characters, each with its place: what ends a line, what stands
between words, and in which column a part begins.  The functions here decide these things for one
character, or for the start of what is left to read.
-/

namespace Chip8.Document

/-- The place of a character: how many characters precede it, on which line it stands and how many
characters precede it there. -/
structure Place where
  index : Nat
  line : Nat
  column : Nat
deriving DecidableEq, Repr

/-- A character and its place. -/
structure Letter where
  char : Char
  place : Place
deriving DecidableEq, Repr

/-! ## Characters -/

/-- Whether a character ends a line. -/
def isBreak (c : Char) : Bool :=
  c == '\n' || c == '\r' || c.toNat == 0x85 || c.toNat == 0x2028 || c.toNat == 0x2029

/-- Whether a character may stand between the words of a line. -/
def isBlank (c : Char) : Bool := c == ' ' || c == '\t'

/-- Whether a character separates words. -/
def isSpace (c : Char) : Bool := isBlank c || isBreak c

/-- Whether a character may stand in the name of a node. -/
def isNameChar (c : Char) : Bool := c.isAlphanum || c == '_' || c == '-'

/-- The mark of byte order. -/
def orderMark : Char := Char.ofNat 0xFEFF

/-- Whether a document may hold a character: no control characters but those of lines, and no code
points that stand for no character. -/
def isAllowed (c : Char) : Bool :=
  let n := c.toNat
  c == '\t' || isBreak c || (0x20 ≤ n && n ≤ 0x7E) || (0xA0 ≤ n && n ≤ 0xFFFD) || 0x10000 ≤ n

/-! ## Places -/

namespace Place

/-- The start of a document. -/
def start : Place := ⟨0, 0, 0⟩

/-- The place after a character.  A return before a line feed does not end the line yet. -/
def after (p : Place) (c : Char) (rest : List Char) : Place :=
  if c = '\r' ∧ rest.head? = some '\n' then { p with index := p.index + 1 }
  else if isBreak c then ⟨p.index + 1, p.line + 1, 0⟩
  else ⟨p.index + 1, p.line, p.column + 1⟩

end Place

/-- A text as letters from a place on, and the place of its end. -/
def placed (p : Place) : List Char → List Letter × Place
  | [] => ([], p)
  | c :: cs =>
    let (letters, finish) := placed (p.after c cs) cs
    (⟨c, p⟩ :: letters, finish)

/-! ## The start of what is left to read -/

/-- Whether a word ends here. -/
def atWordEnd (ls : List Letter) : Bool := ls.head?.all fun a => isSpace a.char

/-- Whether a line ends here. -/
def atLineEnd (ls : List Letter) : Bool := ls.head?.all fun a => isBreak a.char

/-- Whether a character comes next. -/
def begins (c : Char) (ls : List Letter) : Bool := ls.head?.any fun a => a.char == c

/-- Whether one of the lines comes next that separate documents: three times the same sign at the
start of a line, as a word. -/
def atSeparator (sign : Char) : List Letter → Bool
  | a :: b :: c :: rest =>
    a.place.column == 0 && a.char == sign && b.char == sign && c.char == sign && atWordEnd rest
  | _ => false

/-- Whether a document begins or ends here. -/
def atBoundary (ls : List Letter) : Bool := atSeparator '-' ls || atSeparator '.' ls

/-- What follows the line break that comes next, if one does. -/
def dropBreak : List Letter → List Letter
  | [] => []
  | a :: rest =>
    if a.char == '\r' && begins '\n' rest then rest.drop 1
    else if isBreak a.char then rest
    else a :: rest

theorem length_dropBreak_le (ls : List Letter) : (dropBreak ls).length ≤ ls.length := by
  cases ls with
  | nil => simp [dropBreak]
  | cons a rest =>
    simp only [dropBreak]
    split
    · simp only [List.length_drop, List.length_cons]; omega
    · split <;> simp

/-- What follows the blanks that come next. -/
def dropBlanks (ls : List Letter) : List Letter := ls.dropWhile fun a => isBlank a.char

/-- What is left of a line behind blanks and a comment: nothing, if the line holds no more. -/
def dropComment (ls : List Letter) : List Letter :=
  let rest := dropBlanks ls
  if begins '#' rest then rest.dropWhile fun a => !isBreak a.char else rest

/-- The line breaks among letters, each as one character.  The two that divide a text into
paragraphs and lines of their own stay what they are. -/
def breaks : List Letter → List Char
  | [] => []
  | a :: rest =>
    if a.char == '\r' && begins '\n' rest then breaks rest
    else if a.char == '\n' || a.char == '\r' || a.char.toNat == 0x85 then '\n' :: breaks rest
    else if isBreak a.char then a.char :: breaks rest
    else breaks rest

def chars (ls : List Letter) : List Char := ls.map Letter.char

end Chip8.Document
