import Chip8.Document.Quoted

/-!
# Plain text

Text without quotes goes on until a sign that ends it: a colon at the end of a word, a comment, a
boundary of documents, between brackets also a comma or a bracket; outside of them a line that is
not indented enough.  Line breaks inside it are joined like those of quoted text.
-/

namespace Chip8.Document

/-- Whether the next character ends plain text, `inside` brackets or outside. -/
def endsPlain (inside : Bool) : List Letter → Bool
  | [] => true
  | a :: rest =>
    (a.char == ':' && atWordEnd rest) ||
      (inside && [',', '[', ']', '\x7b', '\x7d'].contains a.char)

/-- Whether a colon inside brackets stands where it cannot be understood. -/
def isUnclear (inside : Bool) (a : Letter) (rest : List Letter) : Bool :=
  inside && a.char == ':' &&
    rest.head?.any fun b => [',', '?', '[', ']', '\x7b', '\x7d'].contains b.char

/-- Whether a tab stands among the blanks that indent a line of plain text. -/
def hasIndentingTab (indent : Nat) (gap : List Letter) : Bool :=
  (gap.dropWhile fun a => !isBreak a.char).any fun a => a.char == '\t' && a.place.column < indent

/-- Whether plain text ends with a gap, whose last line is at least so far indented if the text is
to go on. -/
def endsWithGap (inside : Bool) (indent : Nat) (gap next : List Letter) : Bool :=
  atBoundary next || begins '#' next || endsPlain inside next ||
    (!inside && !(breaks gap).isEmpty && next.head?.any fun a => a.place.column < indent)

/-- Read plain text: the text, whether a line ended behind it, and what follows. -/
def readPlain (inside : Bool) (indent : Nat) (ls : List Letter) :
    Option (List Char × Bool × List Letter) :=
  match ls with
  | [] => some ([], false, [])
  | a :: rest =>
    if isSpace a.char then
      let more := gapAfter rest
      let gap := a :: more
      let next := rest.drop more.length
      if hasIndentingTab indent gap then none
      else if endsWithGap inside indent gap next then some ([], !(breaks gap).isEmpty, next)
      else (readPlain inside indent next).map fun (t, after) => (gapText gap ++ t, after)
    else if isUnclear inside a rest then none
    else if endsPlain inside ls then some ([], false, ls)
    else (readPlain inside indent rest).map fun (t, after) => (a.char :: t, after)
termination_by ls.length
decreasing_by
  all_goals
    simp only [List.length_cons, List.length_drop]
    omega

end Chip8.Document
