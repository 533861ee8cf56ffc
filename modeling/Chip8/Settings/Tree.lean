import Chip8.Document.Content
import Chip8.Settings.Expression
import Chip8.Settings.Scalar

/-!
# Trees of values

Overrides make up a tree: a key may be a path of names into mappings and lists.  Below a name that
has no collection there is a new mapping; a collection that is given again is merged with the one
that is there.  A tree accepts only values that settings could have (`Content.accept`).
-/

namespace Chip8.Document.Content

open Entries (lookup put)

/-! ## Values that are accepted -/

def acceptScalar : Scalar → Except Settings.Refusal Unit
  | .time _ => .error .unsupportedValue
  | .text s =>
    if Expression.occursIn s.toList && (Expression.ofText? s).isNone then .error .badExpression
    else .ok ()
  | _ => .ok ()

def acceptKey : Scalar → Except Settings.Refusal Unit
  | .null | .time _ => .error .invalidKey
  | _ => .ok ()

mutual

/-- Check a value and all that is inside it. -/
def accept : Content → Except Settings.Refusal Unit
  | .scalar s => acceptScalar s
  | .list items => acceptItems items
  | .mapping entries => acceptEntries entries
  | .set => .error .unsupportedValue
  | .endless => .error .endlessValue

@[inherit_doc accept]
def acceptItems : List Content → Except Settings.Refusal Unit
  | [] => .ok ()
  | v :: vs => do accept v; acceptItems vs

@[inherit_doc accept]
def acceptEntries : List (Scalar × Content) → Except Settings.Refusal Unit
  | [] => .ok ()
  | (k, v) :: entries => do acceptKey k; accept v; acceptEntries entries

end

/-! ## Kinds of values -/

/-- Whether a value is a collection. -/
def isCollection : Content → Bool
  | .list _ | .mapping _ => true
  | _ => false

/-- The entries of a mapping; other values have none. -/
def entries : Content → List (Scalar × Content)
  | .mapping entries => entries
  | _ => []

/-- Whether a value is left open. -/
def isOpen : Content → Bool
  | .scalar s => s.isOpen
  | _ => false

/-! ## Merging -/

mutual

/-- Merge a value into one that is there.  Mappings are merged key by key, and a list takes the
place of a list. -/
def merge (old : Content) : Content → Except Settings.Refusal Content
  | .mapping entries =>
    match old with
    | .mapping oldEntries => do pure (.mapping (← mergeEntries oldEntries entries))
    | .list _ => .error .unlikeCollections
    | _ => .ok (.mapping entries)
  | .list items =>
    match old with
    | .mapping _ => .error .unlikeCollections
    | _ => .ok (.list items)
  | v => .ok (if v.isOpen then old else v)

/-- Merge entries into those that are there. -/
def mergeEntries (old : List (Scalar × Content)) :
    List (Scalar × Content) → Except Settings.Refusal (List (Scalar × Content))
  | [] => .ok old
  | (k, v) :: entries => do
    let merged ← match lookup k old with
      | some there => merge there v
      | none => pure v
    mergeEntries (put k merged old) entries

end

/-- Give a place a value: a collection is merged with one that is there. -/
def replaceBy (value : Content) (old : Option Content) : Except Settings.Refusal Content := do
  value.accept
  match old with
  | some there => if there.isCollection && value.isCollection then merge there value else pure value
  | none => pure value

/-! ## Paths -/

/-- The place of an item in a list of a length; a negative index counts from the end. -/
def position? (index : Int) (length : Nat) : Option Nat :=
  let i := if index < 0 then index + length else index
  if 0 ≤ i ∧ i < length then some i.toNat else none

/-- The value to go on in: the collection that is there, or else a new mapping. -/
def inner (there : Option Content) : Except Settings.Refusal Content :=
  match there with
  | none => .ok (.mapping [])
  | some v =>
    if v.isOpen then .error .openValue
    else .ok (if v.isCollection then v else .mapping [])

/-- Give the end of a path a value. -/
def update (value : Content) (path : List String) (tree : Content) :
    Except Settings.Refusal Content :=
  match path with
  | [] => .error .emptyPath
  | [key] =>
    match tree with
    | .mapping entries => do
      pure (.mapping (put (.text key) (← replaceBy value (lookup (.text key) entries)) entries))
    | .list items =>
      match Scalar.integerIn 10 key.toList with
      | .error refusal => .error (.keyNotIndex refusal)
      | .ok index =>
        match position? index items.length with
        | none => .error .indexOutOfRange
        | some i => do pure (.list (items.set i (← replaceBy value items[i]?)))
    | _ => .error .unlikeCollections
  | part :: rest =>
    match tree with
    | .mapping entries => do
      let there ← inner (lookup (.text part) entries)
      pure (.mapping (put (.text part) (← update value rest there) entries))
    | .list items =>
      match Text.readInteger part with
      | .error _ => .error (.pathNotIndex part)
      | .ok index =>
        match position? index items.length with
        | none => .error .indexOutOfRange
        | some i => do
          let there ← inner (if index < 0 then none else items[i]?)
          pure (.list (items.set i (← update value rest there)))
    | _ => .error .unlikeCollections

end Chip8.Document.Content
