import Chip8.Document.Scalar

/-!
# Refusals of documents

Why a text has no value: it is not well written, or its parts do not make up a value.
-/

namespace Chip8.Document

/-- Why a text has no value. -/
inductive Refusal where
  /-- A character that no document may hold. -/
  | character
  /-- A part that cannot begin, go on or end where it does. -/
  | token
  /-- A part that is well written but out of place. -/
  | place
  /-- A name that is not given, or given twice, or a second document. -/
  | reference
  /-- A node of which no value can be made: its kind is not known or not that of its tag, a key comes
  twice or is a collection, or what is to be merged is no mapping. -/
  | construction
  | scalar (refusal : Scalar.Refusal)
  /-- Where entries were expected, a node of another kind. -/
  | noEntry (kind : String)
  /-- Where entries were expected, a text. -/
  | textForEntries
deriving DecidableEq, Repr

/-- The message of a refusal, where there is one. -/
def Refusal.message? : Refusal → Option String
  | scalar refusal => refusal.message?
  | noEntry kind => some ("cannot unpack non-iterable " ++ kind ++ " object")
  | textForEntries => some "not enough values to unpack (expected 2, got 1)"
  | _ => none

end Chip8.Document
