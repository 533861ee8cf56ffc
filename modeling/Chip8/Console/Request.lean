import Chip8.Console
import Chip8.Value

/-!
# Requests to a console

A host addresses a console by the name of a call, with loose data as arguments.  A call with the
right number of arguments is a `Request`; what it prints is text, but its level has to be one.
-/

namespace Chip8.Console

/-- What a host asks a console for. -/
inductive Request where
  | log (level text : Value)
  | setLevel (level : Value)

/-- The names of the arguments of a call. -/
def parameters (call : String) : List String :=
  match call with
  | "log" => ["level", "message"]
  | "set_level" => ["log_level"]
  | _ => ["message"]

/-- The request that a call makes.  A call other than `log` and `set_level` is a message under the
call's name. -/
def Request.ofCall (call : String) (args : List Value) : Except Refusal Request :=
  let names := parameters call
  if args.length < names.length then
    .error (.missingArguments call (names.drop args.length))
  else if names.length < args.length then
    .error (.extraArguments call (names.length + 1) (args.length + 1))
  else
    let last := args.getLastD .null
    match call with
    | "log" => .ok (.log (args.headD .null) last)
    | "set_level" => .ok (.setLevel last)
    | name => .ok (.log (.text (Text.upper name)) last)

/-- The text of a level. -/
def levelText : Value → Except Refusal String
  | .text s => .ok s
  | v => .error (.levelNotText v.kind)

/-- Fulfil a request: the console after it and what it prints. -/
def perform (c : Console) (elapsed : Option Decimal.Binary64) :
    Request → Except Refusal (Console × String)
  | .log level text => do
    let name ← levelText level
    let printed ← c.print elapsed name text.plain
    pure (c, printed)
  | .setLevel level => do
    let name ← levelText level
    let c' ← c.setLevel name
    pure (c', "")

end Chip8.Console
