import Chip8.Document.Refusal

/-!
# Refusals of settings

Why settings are not accepted.
-/

namespace Chip8.Settings

inductive Refusal where
  | unknownKey
  | invalidValue (key : String)
  /-- A key of a kind that names nothing. -/
  | invalidKey
  /-- A value of a kind that no setting has. -/
  | unsupportedValue
  /-- A value that stands inside itself. -/
  | endlessValue
  | document (refusal : Document.Refusal)
  /-- A file that holds a single value and no text. -/
  | singleValue
  /-- A file that holds a text that stands for a single value. -/
  | textOfSingleValue
  /-- A list where a mapping is, or a mapping where a list is. -/
  | unlikeCollections
  /-- An override whose key has no parts. -/
  | emptyPath
  /-- An override inside a value that is left open. -/
  | openValue
  /-- A part of a path inside a list that is no integer. -/
  | pathNotIndex (part : String)
  /-- The last part of a path inside a list that is no integer. -/
  | keyNotIndex (refusal : Scalar.Refusal)
  | indexOutOfRange
  /-- An expression that is not well written. -/
  | badExpression
  /-- An expression that names what is not there. -/
  | unknownReference
  /-- An expression that cannot be evaluated: it leads back to itself, or into a single value. -/
  | unresolvable
  /-- An expression whose value does not suit its setting. -/
  | unsuitableExpression
  /-- An expression that calls an unknown function. -/
  | unknownFunction
deriving DecidableEq, Repr

/-- The message of a refusal, where there is one. -/
def Refusal.message? : Refusal → Option String
  | document refusal => refusal.message?
  | keyNotIndex refusal => refusal.message?
  | textOfSingleValue => some ""
  | unlikeCollections => some "Cannot merge incompatible container types"
  | emptyPath => some "list index out of range"
  | pathNotIndex part => some ("Index '" ++ part ++ "' (str) is not an int")
  | endlessValue => some "maximum recursion depth exceeded"
  | _ => none

end Chip8.Settings
