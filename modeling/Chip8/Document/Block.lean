import Chip8.Document.Letter

/-!
# Blocks of lines

The text of a block is indented lines after a header.  The header says whether the line breaks
stay or are joined to spaces, what becomes of those at the end, and how far the lines are indented
unless the first of them shows it.
-/

namespace Chip8.Document

/-- What becomes of the line breaks at the end of a block. -/
inductive Chomping where
  /-- One stays. -/
  | clip
  /-- None stays. -/
  | strip
  /-- All stay. -/
  | keep
deriving DecidableEq, Repr

/-- The marks of a block's header: what becomes of the line breaks at its end, and how much further
than what is around it the block is indented. -/
structure BlockHeader where
  chomping : Chomping := .clip
  increment : Option Nat := none
deriving DecidableEq, Repr

namespace BlockHeader

/-- What a mark says of the line breaks at the end of a block. -/
def chomping? : Char → Option Chomping
  | '+' => some .keep
  | '-' => some .strip
  | _ => none

/-- Add a mark to a header that has none of its kind. -/
def mark? (h : BlockHeader) (c : Char) : Option BlockHeader :=
  match chomping? c with
  | some chomping => if h.chomping = .clip then some { h with chomping := chomping } else none
  | none =>
    if '0' ≤ c ∧ c ≤ '9' ∧ h.increment.isNone then
      some { h with increment := some (c.toNat - 48) }
    else none

/-- Read the marks that come next. -/
def read (h : BlockHeader) : List Letter → BlockHeader × List Letter
  | [] => (h, [])
  | a :: rest =>
    match h.mark? a.char with
    | some h => read h rest
    | none => (h, a :: rest)

/-- The line breaks at the end of a block that stay; `last` is that of its last line and `empty`
are those of the empty lines that follow. -/
def tail (h : BlockHeader) (last empty : List Char) : List Char :=
  match h.chomping with
  | .strip => []
  | .clip => last
  | .keep => last ++ empty

end BlockHeader

/-! ## Indentation -/

/-- Whether a letter is left of a column. -/
def isLeftOf (column : Option Nat) (a : Letter) : Bool := column.all (a.place.column < ·)

/-- Whether a letter belongs to empty lines or to the indentation of a line. -/
def isMargin (indent : Option Nat) (a : Letter) : Bool :=
  isBreak a.char || (a.char == ' ' && isLeftOf indent a)

/-- The margin that comes next: empty lines and the indentation of the first that is not.  There is
none if a tab is among the indentation. -/
def margin? (indent : Option Nat) (ls : List Letter) : Option (List Letter) :=
  let margin := ls.takeWhile (isMargin indent)
  if (ls.drop margin.length).head?.any fun a => a.char == '\t' && isLeftOf indent a then none
  else some margin

/-- The indentation that the first lines of a block show, which is at least `least`. -/
def shownIndent (least : Nat) (ls : List Letter) : Nat :=
  let margin := ls.takeWhile (isMargin none)
  (margin ++ (ls.drop margin.length).take 1).foldl (fun n a => max n a.place.column) least

/-! ## Lines -/

/-- The line break that comes next, if one does. -/
def firstBreak (ls : List Letter) : List Char := (breaks (ls.take 2)).take 1

/-- What stands between two lines.  If the breaks are joined, a break between two lines that do not
begin with a blank is a space, or is nothing before empty lines. -/
def betweenLines (literal fromBlank toBlank : Bool) (last empty : List Char) : List Char :=
  if !literal && last == ['\n'] && !fromBlank && !toBlank then
    if empty.isEmpty then [' '] else empty
  else last ++ empty

/-- Read the lines of a block from the first letter behind a margin on.  `last` is the break before
it, `empty` are those of the empty lines, and `blank` says whether the line before began with a
blank. -/
def readLines (literal : Bool) (h : BlockHeader) (indent : Nat) (last empty : List Char)
    (blank : Bool) (ls : List Letter) : Option (List Char × List Letter) :=
  match ls with
  | [] => some (h.tail last empty, [])
  | a :: rest =>
    if a.place.column ≠ indent then some (h.tail last empty, ls)
    else
      let more := rest.takeWhile fun b => !isBreak b.char
      let after := rest.drop more.length
      let next := dropBreak after
      match margin? (some indent) next with
      | none => none
      | some margin =>
        let between := betweenLines literal blank (isBlank a.char) last empty
        (readLines literal h indent (firstBreak after) (breaks margin) (isBlank a.char)
          (next.drop margin.length)).map fun (t, rest) =>
            (between ++ (a.char :: chars more) ++ t, rest)
termination_by ls.length
decreasing_by
  have := length_dropBreak_le (rest.drop (rest.takeWhile fun b => !isBreak b.char).length)
  simp only [List.length_cons, List.length_drop] at this ⊢
  omega

/-- Read a block behind the sign that begins it: its header and its lines.  `around` is how far what
is around it is indented, if it is in a block itself. -/
def readBlock (literal : Bool) (around : Option Nat) (ls : List Letter) :
    Option (List Char × List Letter) :=
  let (h, rest) := BlockHeader.read {} ls
  let rest := dropComment rest
  if h.increment = some 0 || !atLineEnd rest then none
  else
    let lines := dropBreak rest
    let indent := h.increment.map (around.getD 0 + ·)
    match margin? indent lines with
    | none => none
    | some margin =>
      let least := max 1 (around.elim 0 (· + 1))
      readLines literal h (indent.getD (shownIndent least lines)) [] (breaks margin) false
        (lines.drop margin.length)

end Chip8.Document
