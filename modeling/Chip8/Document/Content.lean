import Chip8.Document.Entries
import Chip8.Document.Node

/-!
# The content of documents

The value of a node: a scalar, a list or a mapping whose keys are scalars.  All of a document's
nodes are checked first, those nearer to its root before those inside them (`Node.check`); then its
value is made (`Node.content`).  A key that comes again in a mapping takes the place of its first
occurrence.
-/

namespace Chip8.Document

/-- The value of a document. -/
inductive Content where
  | scalar (s : Scalar)
  | list (items : List Content)
  | mapping (entries : List (Scalar × Content))
  /-- Keys without values. -/
  | set
  /-- A value that stands inside itself. -/
  | endless

namespace Node

/-- The tag of a node. -/
def tag : Node → Tag
  | scalar t _ | sequence t _ | mapping t _ => t
  | enclosing => .other

/-- The kind of a node, as messages give it. -/
def kind : Node → String
  | scalar .. => "ScalarNode"
  | sequence .. => "SequenceNode"
  | mapping .. | enclosing => "MappingNode"

/-- Whether a tag is one of collections. -/
def isCollectionTag : Tag → Bool
  | .sequence | .mapping | .set | .orderedMapping | .pairs => true
  | _ => false

/-- Whether the inside of a node is to be checked. -/
def hasInside (n : Node) : Bool := isCollectionTag n.tag

mutual

/-- The text of a node: its own, or that of the value that a mapping has as a whole. -/
def text? : Node → Option String
  | scalar _ s => some s
  | mapping _ entries => valueText? entries
  | sequence .. | enclosing => none

/-- The text of the value that the entries of a mapping give for the mapping as a whole. -/
def valueText? : List (Node × Node) → Option String
  | [] => none
  | (k, v) :: entries => if k.tag == .value then text? v else valueText? entries

end

/-- The scalar that a node is, unless it is a collection. -/
def scalar? (n : Node) : Except Refusal (Option Scalar) :=
  match n with
  | enclosing => .ok none
  | _ =>
    if n.hasInside then .ok none
    else
      match n.text? with
      | some s => ((Scalar.ofText n.tag s).map some).mapError .scalar
      | none => .error .construction

/-! ## Merged entries -/

/-- A key that stands for the mapping's own value is a text here. -/
def asKey : Node → Node
  | scalar t s => scalar (if t == .value then .text else t) s
  | n => n

mutual

/-- The entries that a mapping is given by a node: those of a mapping, or of several, of which the
last comes first. -/
def entriesToMerge : Node → Except Refusal (List (Node × Node))
  | mapping _ entries => do
    let (merged, own) ← mergeEntries entries
    pure (merged ++ own)
  | sequence _ items => do
    let entries ← eachEntries items
    pure entries.reverse.flatten
  | enclosing => pure []
  | scalar .. => throw .construction

/-- The entries of several mappings. -/
def eachEntries : List Node → Except Refusal (List (List (Node × Node)))
  | [] => pure []
  | mapping _ entries :: items => do
    let (merged, own) ← mergeEntries entries
    pure ((merged ++ own) :: (← eachEntries items))
  | enclosing :: items => do pure ([] :: (← eachEntries items))
  | _ => throw .construction

/-- The entries that a mapping is given by others, and its own. -/
def mergeEntries :
    List (Node × Node) → Except Refusal (List (Node × Node) × List (Node × Node))
  | [] => pure ([], [])
  | (k, v) :: entries =>
    if k.tag == .merge then do
      let given ← entriesToMerge v
      let (merged, own) ← mergeEntries entries
      pure (given ++ merged, own)
    else do
      let (merged, own) ← mergeEntries entries
      pure (merged, (asKey k, v) :: own)

end

/-! ## Checks -/

/-- Whether a list holds an item twice. -/
def hasRepeated : List String → Bool
  | [] => false
  | s :: rest => rest.contains s || hasRepeated rest

/-- The keys of entries that are texts. -/
def textKeys (entries : List (Node × Node)) : List String :=
  entries.filterMap fun e =>
    match e.1 with
    | scalar .text s => some s
    | _ => none

/-- Check nodes, and give those whose inside is to be checked later. -/
def checkEach (ns : List Node) : Except Refusal (List Node) := do
  let _ ← ns.mapM scalar?
  pure (ns.filter hasInside)

/-- Check the entries of a mapping: its keys are scalars, and no text among those written in it
comes twice. -/
def checkEntries (entries : List (Node × Node)) : Except Refusal (List Node) := do
  if hasRepeated (textKeys entries) then throw .construction
  let (merged, own) ← mergeEntries entries
  let inside ← (merged ++ own).mapM fun (k, v) => do
    if (← k.scalar?).isNone then throw .construction
    checkEach [v]
  pure inside.flatten

/-- Check what should be a sequence of single pairs. -/
def checkPairs (items : List Node) : Except Refusal (List Node) := do
  let inside ← items.mapM fun
    | mapping _ [(k, v)] => checkEach [k, v]
    | _ => throw .construction
  pure inside.flatten

/-- Check the inside of a collection, and give the nodes whose inside is to be checked later. -/
def checkInside (n : Node) : Except Refusal (List Node) :=
  match n.tag, n with
  | .sequence, sequence _ items => checkEach items
  | .mapping, mapping _ entries | .set, mapping _ entries => checkEntries entries
  | .mapping, scalar _ s | .set, scalar _ s =>
    .error (if s.isEmpty then .construction else .textForEntries)
  | .mapping, sequence _ (item :: _) | .set, sequence _ (item :: _) => .error (.noEntry item.kind)
  | .orderedMapping, sequence _ items | .pairs, sequence _ items => checkPairs items
  | _, _ => .error .construction

mutual

/-- The number of levels of a node. -/
def depth : Node → Nat
  | sequence _ items => depths items + 1
  | mapping _ entries => entryDepths entries + 1
  | scalar .. | enclosing => 1

@[inherit_doc depth]
def depths : List Node → Nat
  | [] => 0
  | n :: ns => max (depth n) (depths ns)

@[inherit_doc depth]
def entryDepths : List (Node × Node) → Nat
  | [] => 0
  | (k, v) :: entries => max (max (depth k) (depth v)) (entryDepths entries)

end

/-- Check the insides of nodes, level by level. -/
def checkLevels (levels : Nat) (ns : List Node) : Except Refusal Unit :=
  match levels with
  | 0 => .ok ()
  | levels + 1 => do
    let inside ← ns.mapM checkInside
    checkLevels levels inside.flatten

/-- Check a node and all that is inside it. -/
def check (n : Node) : Except Refusal Unit := do
  checkLevels n.depth (← checkEach [n])

end Node

namespace Node

/-- The scalar of a node that has one. -/
def scalarValue (n : Node) : Scalar := (n.scalar?.toOption.join).getD .null

mutual

/-- The value of a node that has one. -/
def content : Node → Content
  | enclosing => .endless
  | scalar t s => .scalar (scalarValue (scalar t s))
  | sequence t items =>
    match t with
    | .orderedMapping | .pairs => .list (pairContents items)
    | _ => .list (contents items)
  | mapping t entries =>
    match t with
    | .mapping =>
      let (merged, own) := entryContents entries
      .mapping (Entries.distinct (merged ++ own))
    | .set => .set
    | _ => .scalar (scalarValue (mapping t entries))

def contents : List Node → List Content
  | [] => []
  | n :: ns => content n :: contents ns

/-- The values of single pairs, each as a list. -/
def pairContents : List Node → List Content
  | [] => []
  | mapping _ entries :: ns => .list (bothContents entries) :: pairContents ns
  | _ :: ns => pairContents ns

/-- The values of keys and values, one after the other. -/
def bothContents : List (Node × Node) → List Content
  | [] => []
  | (k, v) :: entries => content k :: content v :: bothContents entries

/-- The entries that a mapping is given by others, and its own. -/
def entryContents :
    List (Node × Node) → List (Scalar × Content) × List (Scalar × Content)
  | [] => ([], [])
  | (k, v) :: entries =>
    let (merged, own) := entryContents entries
    if k.tag == .merge then (contentsToMerge v ++ merged, own)
    else (merged, ((asKey k).scalarValue, content v) :: own)

/-- The entries that a mapping is given by a node. -/
def contentsToMerge : Node → List (Scalar × Content)
  | mapping _ entries =>
    let (merged, own) := entryContents entries
    merged ++ own
  | sequence _ items => eachContents items
  | scalar .. | enclosing => []

/-- The entries of several mappings, of which the last comes first. -/
def eachContents : List Node → List (Scalar × Content)
  | [] => []
  | mapping _ entries :: items =>
    let (merged, own) := entryContents entries
    eachContents items ++ (merged ++ own)
  | _ :: items => eachContents items

end

end Node

/-- The value of a text, if it holds one. -/
def Content.ofText (s : String) : Except Refusal (Option Content) := do
  match ← Node.ofText s with
  | none => pure none
  | some n => do
    n.check
    pure (some n.content)

end Chip8.Document
