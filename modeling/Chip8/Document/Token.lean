/-!
# Tokens

The parts that a document is made of.  The block tokens do not stand in the text: they say where
the indentation opens and closes a collection.
-/

namespace Chip8.Document

/-- A part of a document. -/
inductive Token where
  /-- The version of the format that a document asks for. -/
  | version (major minor : Nat)
  /-- A short form of tags and what it stands for. -/
  | shortTag (handle expansion : String)
  | documentStart
  | documentEnd
  | blockSequenceStart
  | blockMappingStart
  | blockEnd
  | flowSequenceStart
  | flowSequenceEnd
  | flowMappingStart
  | flowMappingEnd
  /-- The dash before an item of a block. -/
  | blockEntry
  /-- The comma between items in brackets. -/
  | flowEntry
  | key
  | value
  /-- The name of an earlier node, which stands here again. -/
  | reference (name : String)
  /-- The name of the node that follows. -/
  | anchor (name : String)
  /-- The tag of the node that follows: a short form and the rest of it. -/
  | tag (handle suffix : String)
  | scalar (text : String) (plain : Bool)
  /-- The end of the text. -/
  | finish
deriving DecidableEq, Repr

end Chip8.Document
