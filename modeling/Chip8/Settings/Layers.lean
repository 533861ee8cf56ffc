import Chip8.Settings.Draft
import Chip8.Settings.Library

/-!
# Layers of settings

Settings come from a file and from overrides.  Each is a layer: keys and their values, each key
once.  A layer is applied to a draft entry by entry, and the first entry that cannot be applied
decides the failure.  A file is read as a whole; overrides are read one by one, and their keys are
paths.  Together this is a library with which settings can be loaded (`layered`).
-/

namespace Chip8.Settings

open Document (Content)

/-- Keys and their values, in the order of the keys' first occurrence. -/
abbrev Layer := List (Scalar × Content)

/-- Apply a layer, entry by entry. -/
def Draft.apply (d : Draft) (layer : Layer) : Except Refusal Draft :=
  layer.foldlM (fun d e => d.set e.1 e.2) d

/-- The value of a text. -/
def contentOfText (s : String) : Except Refusal Content :=
  match Content.ofText s with
  | .ok content => .ok (content.getD (.scalar .null))
  | .error refusal => .error (.document refusal)

/-! ## Files -/

/-- The layer of a collection. -/
def layerOfCollection (content : Content) : Except Refusal Layer := do
  content.accept
  match content with
  | .mapping entries => pure entries
  | _ => throw .unlikeCollections

/-- The layer of a text that a file consists of: the text is read as a file again, and a text
within it is a key without a value. -/
def layerOfText (s : String) : Except Refusal Layer := do
  match ← contentOfText s with
  | .scalar .null => pure []
  | .scalar (.text key) => pure [(.text key, .scalar .null)]
  | content => if content.isCollection then layerOfCollection content else throw .textOfSingleValue

/-- The layer of a file. -/
def layerOfFile (s : String) : Except Refusal Layer := do
  match ← contentOfText s with
  | .scalar .null => pure []
  | .scalar (.text inner) => layerOfText inner
  | content => if content.isCollection then layerOfCollection content else throw .singleValue

/-! ## Overrides -/

/-- An override, split at its first equals sign; without one its value is null. -/
def splitOverride (s : String) : String × Option String :=
  let cs := s.toList
  let key := cs.takeWhile (· != '=')
  match cs.drop key.length with
  | [] => (s, none)
  | _ :: rest => (String.ofList key, some (String.ofList rest))

/-- The value that is written behind a key. -/
def writtenValue : Option String → Except Refusal Content
  | some text => contentOfText text
  | none => .ok (.scalar .null)

/-- Add an override to the layer of those before it. -/
def override (layer : Layer) (s : String) : Except Refusal Layer := do
  let value ← writtenValue (splitOverride s).2
  let tree ← Content.update value (keyParts (splitOverride s).1) (.mapping layer)
  pure tree.entries

/-- The layer of a list of overrides. -/
def layerOfOverrides (overrides : List String) : Except Refusal Layer :=
  overrides.foldlM override []

/-- The library of layers and drafts. -/
def layered : Library where
  Mapping := Layer
  Record := Draft
  record s := { settings := s }
  ofFile := layerOfFile
  ofOverrides := layerOfOverrides
  merge := Draft.apply
  settings := Draft.resolve

end Chip8.Settings
