import Chip8.Document.Refusal
import Chip8.Document.Tokens

/-!
# Nodes

A document is a node: a scalar, a sequence of nodes or a mapping from nodes to nodes.  Nodes are
read off the tokens of a text from left to right (`Node.ofText`); what is left out is an empty
plain scalar.  A node with a name may stand again further on, and inside itself.
-/

namespace Chip8.Document

/-- A part of a document that has a tag. -/
inductive Node where
  | scalar (tag : Tag) (text : String)
  | sequence (tag : Tag) (items : List Node)
  | mapping (tag : Tag) (entries : List (Node × Node))
  /-- A node that stands inside itself. -/
  | enclosing

namespace Node

/-- What is left out. -/
def absent : Node := scalar (Tag.ofPlain "") ""

/-- How far the tokens of a text have been read. -/
structure Reader where
  tokens : List Token
  /-- The short forms of tags. -/
  shortTags : List (String × String) := []
  /-- The nodes with names; there is none yet while it is being read. -/
  named : List (String × Option Node) := []

/-- Reading, with a reason if it fails. -/
abbrev Reading := StateT Reader (Except Refusal)

/-- The next token.  Where the tokens end before the text does, the text is not well written. -/
def peek : Reading Token := do
  match (← get).tokens with
  | [] => throw .token
  | t :: _ => pure t

/-- Go on behind the next token. -/
def skip : Reading Unit := modify fun r => { r with tokens := r.tokens.drop 1 }

/-- Read something, unless a token comes next before which it is left out. -/
def nodeUnless (ends : Token → Bool) (read : Reading Node) : Reading Node := do
  if ends (← peek) then pure absent else read

/-! ## Names and tags -/

/-- What may precede a node: its name and its tag. -/
structure Properties where
  name : Option String := none
  tag : Option String := none

/-- The full name of a tag. -/
def fullTag (handle suffix : String) : Reading String := do
  if handle.isEmpty then pure suffix
  else
    match (← get).shortTags.lookup handle with
    | some expansion => pure (expansion ++ suffix)
    | none => throw .place

/-- Read the name and the tag of a node, in any order. -/
def properties : Reading Properties := do
  let (name, tag) ←
    match ← peek with
    | .anchor name => do
      skip
      match ← peek with
      | .tag handle suffix => do skip; pure (some name, some (handle, suffix))
      | _ => pure (some name, none)
    | .tag handle suffix => do
      skip
      match ← peek with
      | .anchor name => do skip; pure (some name, some (handle, suffix))
      | _ => pure (none, some (handle, suffix))
    | _ => pure (none, none)
  let _ ← peek
  match tag with
  | none => pure { name := name }
  | some (handle, suffix) => pure { name := name, tag := some (← fullTag handle suffix) }

/-- Read a node that may have a name. -/
def withName (name : Option String) (read : Reading Node) : Reading Node := do
  match name with
  | none => read
  | some name =>
    if ((← get).named.lookup name).isSome then throw .reference
    modify fun r => { r with named := (name, none) :: r.named }
    let n ← read
    modify fun r => { r with named := (name, some n) :: r.named }
    pure n

/-- The tag of a scalar.  An exclamation mark alone makes its form count, even in quotes. -/
def scalarTag (given : Option String) (text : String) (plain : Bool) : Tag :=
  match given with
  | none => if plain then Tag.ofPlain text else .text
  | some name => if name == "!" then Tag.ofPlain text else Tag.ofName name

/-- The tag of a collection. -/
def collectionTag (given : Option String) (kind : Tag) : Tag :=
  match given with
  | none => kind
  | some name => if name == "!" then kind else Tag.ofName name

/-- A scalar of which there is only its name or its tag. -/
def bare (p : Properties) : Node :=
  match p.tag with
  | none => absent
  | some name => scalar (if name == "!" then .text else Tag.ofName name) ""

/-! ## Nodes

`block` says whether blocks may begin, which they cannot in brackets; `indentless` whether the
items of a sequence may stand in the column of what is around it, as those below a key may.  The
number bounds the steps.
-/

/-- The tokens that end an entry of a block. -/
def endsBlockEntry : Token → Bool
  | .key | .value | .blockEnd => true
  | _ => false

/-- The tokens that end an item of a block that is not indented. -/
def endsIndentlessItem : Token → Bool
  | .blockEntry => true
  | t => endsBlockEntry t

/-- The tokens that end an item of a block. -/
def endsBlockItem : Token → Bool
  | .blockEntry | .blockEnd => true
  | _ => false

/-- The tokens that end a value in brackets. -/
def endsFlowValue (closing : Token) (t : Token) : Bool := t == .flowEntry || t == closing

/-- The tokens that end a key in brackets. -/
def endsFlowKey (closing : Token) (t : Token) : Bool := t == .value || endsFlowValue closing t

/-- Go on to the next item in brackets: behind a comma, unless it is the first. -/
def nextItem (first : Bool) : Reading Unit := do
  if !first then
    match ← peek with
    | .flowEntry => skip
    | _ => throw .place

mutual

def node (steps : Nat) (block indentless : Bool) : Reading Node :=
  match steps with
  | 0 => throw .place
  | steps + 1 => do
    match ← peek with
    | .reference name =>
      skip
      match (← get).named.lookup name with
      | none => throw .reference
      | some none => pure enclosing
      | some (some n) => pure n
    | _ =>
      let p ← properties
      let sequenceTag := collectionTag p.tag .sequence
      let mappingTag := collectionTag p.tag .mapping
      match ← peek, block, indentless with
      | .blockEntry, _, true => withName p.name do
        pure (sequence sequenceTag (← indentlessItems steps []))
      | .scalar text plain, _, _ => withName p.name do
        skip
        pure (scalar (scalarTag p.tag text plain) text)
      | .flowSequenceStart, _, _ => withName p.name do
        skip
        pure (sequence sequenceTag (← flowItems steps true []))
      | .flowMappingStart, _, _ => withName p.name do
        skip
        pure (mapping mappingTag (← flowEntries steps true []))
      | .blockSequenceStart, true, _ => withName p.name do
        skip
        pure (sequence sequenceTag (← blockItems steps []))
      | .blockMappingStart, true, _ => withName p.name do
        skip
        pure (mapping mappingTag (← blockEntries steps []))
      | _, _, _ =>
        if p.name.isNone && p.tag.isNone then throw .place
        withName p.name (pure (bare p))

/-- Read the items of a block. -/
def blockItems (steps : Nat) (read : List Node) : Reading (List Node) :=
  match steps with
  | 0 => throw .place
  | steps + 1 => do
    match ← peek with
    | .blockEntry =>
      skip
      let n ← nodeUnless endsBlockItem (node steps true false)
      blockItems steps (n :: read)
    | .blockEnd => do skip; pure read.reverse
    | _ => throw .place

/-- Read the items of a block that is not indented. -/
def indentlessItems (steps : Nat) (read : List Node) : Reading (List Node) :=
  match steps with
  | 0 => throw .place
  | steps + 1 => do
    match ← peek with
    | .blockEntry =>
      skip
      let n ← nodeUnless endsIndentlessItem (node steps true false)
      indentlessItems steps (n :: read)
    | _ => pure read.reverse

/-- Read the entries of a block. -/
def blockEntries (steps : Nat) (read : List (Node × Node)) : Reading (List (Node × Node)) :=
  match steps with
  | 0 => throw .place
  | steps + 1 => do
    match ← peek with
    | .key =>
      skip
      let k ← nodeUnless endsBlockEntry (node steps true true)
      let v ←
        match ← peek with
        | .value => do skip; nodeUnless endsBlockEntry (node steps true true)
        | _ => pure absent
      blockEntries steps ((k, v) :: read)
    | .blockEnd => do skip; pure read.reverse
    | _ => throw .place

/-- Read the items in square brackets.  A key among them makes an item a mapping with that key
alone.  A mark of a key that is left out takes the token behind it with it. -/
def flowItems (steps : Nat) (first : Bool) (read : List Node) : Reading (List Node) :=
  match steps with
  | 0 => throw .place
  | steps + 1 => do
    match ← peek with
    | .flowSequenceEnd => do skip; pure read.reverse
    | _ =>
      nextItem first
      match ← peek with
      | .flowSequenceEnd => do skip; pure read.reverse
      | .key =>
        skip
        let k ←
          if endsFlowKey .flowSequenceEnd (← peek) then do skip; pure absent
          else node steps false false
        let v ←
          match ← peek with
          | .value => do
            skip
            nodeUnless (endsFlowValue .flowSequenceEnd) (node steps false false)
          | _ => pure absent
        flowItems steps false (mapping .mapping [(k, v)] :: read)
      | _ =>
        let n ← node steps false false
        flowItems steps false (n :: read)

/-- Read the entries in curly brackets. -/
def flowEntries (steps : Nat) (first : Bool) (read : List (Node × Node)) :
    Reading (List (Node × Node)) :=
  match steps with
  | 0 => throw .place
  | steps + 1 => do
    match ← peek with
    | .flowMappingEnd => do skip; pure read.reverse
    | _ =>
      nextItem first
      match ← peek with
      | .flowMappingEnd => do skip; pure read.reverse
      | .key =>
        skip
        let k ← nodeUnless (endsFlowKey .flowMappingEnd) (node steps false false)
        let v ←
          match ← peek with
          | .value => do
            skip
            nodeUnless (endsFlowValue .flowMappingEnd) (node steps false false)
          | _ => pure absent
        flowEntries steps false ((k, v) :: read)
      | _ =>
        let k ← node steps false false
        flowEntries steps false ((k, absent) :: read)

end

/-! ## Documents -/

/-- The short forms of tags that need not be given. -/
def commonTags : List (String × String) := [("!", "!"), ("!!", Tag.standard)]

/-- Whether a token is a directive. -/
def isDirective : Token → Bool
  | .version .. | .shortTag .. => true
  | _ => false

/-- The short forms of tags that directives give.  There is at most one version, one that is known
here, and no short form is given twice. -/
def readDirectives (version : Bool) (shortTags : List (String × String)) :
    List Token → Option (List (String × String))
  | .version major minor :: ts =>
    if version || major != 1 || (minor != 1 && minor != 2) then none
    else readDirectives true shortTags ts
  | .shortTag handle expansion :: ts =>
    if (shortTags.lookup handle).isSome then none
    else readDirectives version ((handle, expansion) :: shortTags) ts
  | _ => some (shortTags ++ commonTags)

/-- Read the directives and the line that begins a document. -/
def documentStart : Reading Unit := do
  let directives := (← get).tokens.takeWhile isDirective
  match readDirectives false [] directives with
  | none => throw .place
  | some shortTags =>
    modify fun r =>
      { r with tokens := r.tokens.drop directives.length, shortTags := shortTags }
  match ← peek with
  | .documentStart => skip
  | _ => throw .place

/-- The tokens that end a document. -/
def endsDocument : Token → Bool
  | .documentStart | .documentEnd | .finish => true
  | t => isDirective t

/-- Read the only document of a text, if there is one. -/
def document (steps : Nat) : Reading (Option Node) := do
  let first ← peek
  if first == .finish then pure none
  else
    let n ←
      if first == .documentStart || isDirective first then do
        documentStart
        nodeUnless endsDocument (node steps true false)
      else do
        modify fun r => { r with shortTags := commonTags }
        node steps true false
    modify fun r => { r with tokens := r.tokens.dropWhile (· == .documentEnd) }
    if (← peek) == .finish then pure (some n)
    else do
      documentStart
      throw .reference

/-- The characters of a text, without the mark of byte order that it may begin with. -/
def characters (s : String) : Except Refusal (List Char) :=
  let cs :=
    match s.toList with
    | [] => []
    | c :: cs => if c = orderMark then cs else c :: cs
  if cs.all isAllowed then .ok cs else .error .character

/-- The node of a text, if there is one.  Each token takes few steps to read. -/
def ofText (s : String) : Except Refusal (Option Node) := do
  let ts := tokens (← characters s)
  (document (4 * ts.length + 8)).run' { tokens := ts }

end Node

end Chip8.Document
