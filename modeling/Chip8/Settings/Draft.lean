import Chip8.Settings.Field
import Chip8.Settings.Path
import Chip8.Settings.Tree

/-!
# Drafts of settings

While layers are applied a setting may be an expression.  When all are, each expression is
evaluated (`Draft.resolve`): a setting that refers to others has their values.
-/

namespace Chip8.Settings

/-- Settings, some of which are expressions. -/
structure Draft where
  settings : Settings := {}
  expressions : List (Field × Expression) := []

namespace Draft

/-- The expression that a scalar is. -/
def expression? : Scalar → Option Expression
  | .text s => if Expression.occursIn s.toList then Expression.ofText? s else none
  | _ => none

/-- A draft in which a setting is no expression. -/
def withoutExpression (f : Field) (d : Draft) : Draft :=
  { d with expressions := d.expressions.filter (·.1 != f) }

/-- Give a setting a value. -/
def setField (f : Field) (v : Scalar) (d : Draft) : Except Refusal Draft :=
  if v.isOpen then .ok d
  else
    let rest := d.withoutExpression f
    match expression? v with
    | some e => .ok { rest with expressions := (f, e) :: rest.expressions }
    | none =>
      match f.set? v d.settings with
      | some s => .ok { rest with settings := s }
      | none => .error (.invalidValue f.name)

/-- Give the setting with a key a value. -/
def set (key : Scalar) (value : Document.Content) (d : Draft) : Except Refusal Draft :=
  match key with
  | .text name =>
    match Field.ofName? name with
    | none => .error .unknownKey
    | some f =>
      match value with
      | .scalar v => d.setField f v
      | _ => .error (.invalidValue name)
  | _ => .error .unknownKey

/-! ## Expressions -/

/-- The functions that are known but have no value here. -/
def knownFunctions : List String :=
  ["oc.create", "oc.decode", "oc.deprecated", "oc.dict.keys", "oc.dict.values", "oc.env",
    "oc.select"]

/-- A value as a part of a text. -/
def shown : Scalar → String
  | .int i => toString i
  | .flag b => if b then "True" else "False"
  | .text s => s
  | _ => ""

/-- The setting that a key refers to.  A single value has nothing inside it, and there is nothing
around all settings. -/
def referredTo (key : String) : Except Refusal Field :=
  match keyParts (if key.startsWith "." then (key.drop 1).toString else key) with
  | [] => .error .unknownReference
  | part :: more =>
    match Field.ofName? part with
    | none => .error .unknownReference
    | some f => if more.isEmpty then .ok f else .error .unresolvable

mutual

/-- The value of a piece, from the values of settings. -/
def evaluatePiece (value : Field → Except Refusal Scalar) : Piece → Except Refusal Scalar
  | .text cs => .ok (.text (String.ofList cs))
  | .reference key => do value (← referredTo (← evaluatePieces value key))
  | .call function =>
    .error (if knownFunctions.contains (String.ofList function) then .unresolvable
      else .unknownFunction)

/-- The text of pieces, from the values of settings. -/
def evaluatePieces (value : Field → Except Refusal Scalar) : List Piece → Except Refusal String
  | [] => .ok ""
  | p :: ps => do
    let v ← evaluatePiece value p
    pure (shown v ++ (← evaluatePieces value ps))

end

/-- The value of an expression: that of a piece that is alone, else a text. -/
def evaluate (value : Field → Except Refusal Scalar) : Expression → Except Refusal Scalar
  | [p] => evaluatePiece value p
  | ps => do pure (.text (← evaluatePieces value ps))

/-- The value of a setting.  An expression may refer to others only so many deep. -/
def value (d : Draft) (depth : Nat) (f : Field) : Except Refusal Scalar :=
  match d.expressions.lookup f with
  | none => .ok (f.get d.settings)
  | some e =>
    match depth with
    | 0 => .error .unresolvable
    | depth + 1 => do
      let v ← evaluate (d.value depth) e
      match f.set? v d.settings with
      | some s => pure (f.get s)
      | none => throw .unsuitableExpression

/-- The settings of a draft.  No more settings can refer to each other than there are. -/
def resolve (d : Draft) : Except Refusal Settings :=
  Field.all.foldlM (fun s f => do
    let v ← d.value Field.all.length f
    pure ((f.set? v s).getD s)) d.settings

end Draft

end Chip8.Settings
