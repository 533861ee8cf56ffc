import Chip8.Decimal.Shortest
import Chip8.Integer
import Chip8.Text.Quoted

/-!
# Loose values

Programs and key states may come from a host as loosely typed data.  A `Value` is such data; the
functions here say how it is iterated, when it counts as true and how it is shown in a message.
-/

namespace Chip8

/-- A loosely typed value. -/
inductive Value where
  | null
  | bool (b : Bool)
  | int (i : Int)
  | float (x : Decimal.Binary64)
  | text (s : String)
  | list (items : List Value)
  /-- Named fields, in order. -/
  | object (fields : List (String × Value))

namespace Value

/-- The name of the kind of a value, as messages give it. -/
def kind : Value → String
  | null => "NoneType"
  | bool _ => "bool"
  | int _ => "int"
  | float _ => "float"
  | text _ => "str"
  | list _ => "list"
  | object _ => "dict"

/-- The items of a value: those of a list, the characters of a text, the names of an object. -/
def items? : Value → Option (List Value)
  | list items => some items
  | text s => some (s.toList.map fun c => text (String.singleton c))
  | object fields => some (fields.map fun field => text field.1)
  | _ => none

/-- Whether a value counts as true: a flag that is set, a number other than zero, a text or a
collection that is not empty. -/
def truthy : Value → Bool
  | null => false
  | bool b => b
  | int i => i != 0
  | float x => !x.isZero
  | text s => !s.isEmpty
  | list items => !items.isEmpty
  | object fields => !fields.isEmpty

/-- Whether a value is a text. -/
def isText : Value → Bool
  | text _ => true
  | _ => false

/-- Whether a value can stand among texts as a text: a flag, a number that fits 64 bits with or
without a sign, or a text. -/
def hasText : Value → Bool
  | bool _ | float _ | text _ => true
  | int i => decide (FitsInt64 i) || decide (FitsUInt64 i)
  | null | list _ | object _ => false

/-- Whether a value among texts counts as true: its text holds a character other than NUL. -/
def truthyAsText : Value → Bool
  | text s => s.toList.any (· != Char.ofNat 0)
  | _ => true

/-- Which of several values count as true.  Values that can stand together as texts, and of which
one is a text, are texts all of them, so that a zero among them counts as true. -/
def truths (items : List Value) : List Bool :=
  if items.any isText && items.all hasText then items.map truthyAsText else items.map truthy

/-! ## Values in messages -/

mutual

/-- A value as a message shows it: texts in quotes, collections in brackets. -/
def shown : Value → String
  | null => "None"
  | bool b => if b then "True" else "False"
  | int i => toString i
  | float x => x.render
  | text s => Text.quoted s
  | list items => "[" ++ String.intercalate ", " (shownItems items) ++ "]"
  | object fields => "\x7b" ++ String.intercalate ", " (shownFields fields) ++ "\x7d"

@[inherit_doc shown]
def shownItems : List Value → List String
  | [] => []
  | v :: vs => shown v :: shownItems vs

@[inherit_doc shown]
def shownFields : List (String × Value) → List String
  | [] => []
  | (name, v) :: fields => (Text.quoted name ++ ": " ++ shown v) :: shownFields fields

end

/-- A value as a message of its own: a text stands as it is. -/
def plain : Value → String
  | text s => s
  | v => v.shown

/-! ## The shape of nested lists -/

/-- The numbers of items of nested lists, level by level, as far as all parts of a level agree;
and whether they agree all the way down, which lists with too many levels never do. -/
structure Extent where
  sizes : List Nat
  rectangular : Bool
deriving DecidableEq, Repr

namespace Extent

/-- The common start of two lists of sizes. -/
def common : List Nat → List Nat → List Nat
  | a :: as, b :: bs => if a = b then a :: common as bs else []
  | _, _ => []

/-- What two parts of one level have in common. -/
def join (e f : Extent) : Extent :=
  ⟨common e.sizes f.sizes, e.rectangular && f.rectangular && e.sizes == f.sizes⟩

/-- The extent of a list from those of its items. -/
def ofItems : List Extent → Extent
  | [] => ⟨[0], true⟩
  | e :: es =>
    let level := es.foldl join e
    ⟨(es.length + 1) :: level.sizes, level.rectangular⟩

end Extent

mutual

/-- The extent of a value, within a number of levels; only lists have items here. -/
def extent (levels : Nat) : Value → Extent
  | list items =>
    match levels with
    | 0 => ⟨[], false⟩
    | below + 1 => Extent.ofItems (extents below items)
  | _ => ⟨[], true⟩

@[inherit_doc extent]
def extents (levels : Nat) : List Value → List Extent
  | [] => []
  | v :: vs => extent levels v :: extents levels vs

end

/-- The greatest number of levels that nested lists may have. -/
def maxLevels : Nat := 64

/-- Sizes as a message shows them. -/
def showSizes : List Nat → String
  | [n] => "(" ++ toString n ++ ",)"
  | ns => "(" ++ String.intercalate ", " (ns.map toString) ++ ")"

end Value

end Chip8
