import Chip8.Decimal.Fixed
import Chip8.Text.Case
import Chip8.Text.Quoted

/-!
# The console

Messages have a severity, and a console prints those that are at least as severe as its level.
A level is a name in capitals; a name that is not known counts as `INFO`.  A line is stamped with
the time since the console's start, which is why a time beyond all doubles cannot be printed.
-/

namespace Chip8

/-- How severe a message is. -/
inductive Severity where
  | debug
  | info
  | warning
  | error
  | critical
deriving DecidableEq, Repr

namespace Severity

/-- All severities, from the least. -/
def all : List Severity := [debug, info, warning, error, critical]

/-- The position in the order of severities. -/
def rank : Severity → Nat
  | debug => 0
  | info => 1
  | warning => 2
  | error => 3
  | critical => 4

/-- The name of a severity. -/
def name : Severity → String
  | debug => "DEBUG"
  | info => "INFO"
  | warning => "WARNING"
  | error => "ERROR"
  | critical => "CRITICAL"

/-- The terminal's number for the colour of a severity. -/
def colour : Severity → String
  | debug => "36"
  | info => "32"
  | warning => "33"
  | error => "31"
  | critical => "35"

/-- The severity with a name. -/
def ofName? (name : String) : Option Severity := all.find? fun s => s.name == name

/-- The severity that a name counts as. -/
def ofName (name : String) : Severity := (ofName? name).getD info

theorem ofName?_name (s : Severity) : ofName? s.name = some s := by
  cases s <;> decide

end Severity

/-- A message for the host. -/
structure Message where
  severity : Severity
  text : String
deriving DecidableEq, Repr

/-- How messages are printed. -/
structure Console where
  name : String := "vipax"
  /-- The name of the least severity that is printed, in capitals. -/
  level : String := "INFO"
  coloured : Bool := false
  stamped : Bool := true
deriving DecidableEq, Repr

namespace Console

/-- Why a call on a console fails. -/
inductive Refusal where
  | unknownLevel (name : String)
  /-- A level of a kind that has no capitals. -/
  | levelNotText (kind : String)
  /-- A time that no double comes near. -/
  | timeTooLarge
  | missingArguments (call : String) (names : List String)
  | extraArguments (call : String) (taken given : Nat)
deriving DecidableEq, Repr

/-- The console of a machine: no colours, no time, warnings and worse. -/
def forMachine : Console := { level := "WARNING", stamped := false }

/-- The least severity that is printed. -/
def threshold (c : Console) : Severity := Severity.ofName c.level

/-- Set the level by its name, in letters of any case; `none` if there is no such level. -/
def setLevel? (c : Console) (name : String) : Option Console :=
  (Severity.ofName? (Text.upper name)).map fun s => { c with level := s.name }

/-- Set the level by its name, in letters of any case. -/
def setLevel (c : Console) (name : String) : Except Refusal Console :=
  match c.setLevel? name with
  | some c' => .ok c'
  | none => .error (.unknownLevel name)

/-! ## Lines -/

/-- The terminal's code for a colour. -/
def colourCode (number : String) : String := "\x1b[" ++ number ++ "m"

/-- The colours by name: one for each severity, and the plain one that ends them. -/
def palette : List (String × String) :=
  Severity.all.map (fun s => (s.name, s.colour)) ++ [("RESET", "0")]

/-- What a coloured tag of a level begins with; nothing if no colour has the level's name. -/
def tint (level : String) : String :=
  ((palette.lookup (Text.upper level)).map colourCode).getD ""

/-- The tag of a level, in its colour if the console has colours. -/
def tag (c : Console) (level : String) : String :=
  let plain := "[" ++ Decimal.padLeft 8 level ++ "]"
  if c.coloured then tint level ++ plain ++ colourCode "0" else plain

/-- The time since the start, in seconds, if the console stamps its lines. -/
def stamp (c : Console) (elapsed : Decimal.Binary64) : String :=
  if c.stamped then "[" ++ Decimal.padLeft 8 (elapsed.fixed 2) ++ "s]" else ""

/-- One line: the time since the start, the level, the name of the console, the message. -/
def line (c : Console) (elapsed : Decimal.Binary64) (level text : String) : String :=
  c.stamp elapsed ++ c.tag level ++ "[" ++ c.name ++ "] " ++ text

/-- What a message under a level's name prints, with the line's end.  The time since the start is
`none` if no double comes near it. -/
def print (c : Console) (elapsed : Option Decimal.Binary64) (level text : String) :
    Except Refusal String :=
  if c.threshold.rank ≤ (Severity.ofName (Text.upper level)).rank then
    match elapsed with
    | some time => .ok (c.line time level text ++ "\n")
    | none =>
      if c.stamped then .error .timeTooLarge
      else .ok (c.line (.finite false 0 0) level text ++ "\n")
  else .ok ""

/-- Whether a message is printed. -/
def shows (c : Console) (m : Message) : Bool := decide (c.threshold.rank ≤ m.severity.rank)

/-- The lines that messages print. -/
def lines (c : Console) (messages : List Message) : List String :=
  (messages.filter c.shows).flatMap fun m =>
    (c.line (.finite false 0 0) m.severity.name m.text).splitOn "\n"

/-! ## Messages of refusals -/

/-- Names in quotes, the last after an "and". -/
def listNames : List String → String
  | [] => ""
  | [a] => Text.quoted a
  | [a, b] => Text.quoted a ++ " and " ++ Text.quoted b
  | a :: rest => Text.quoted a ++ ", " ++ listNames rest

/-- The message of a refusal. -/
def Refusal.message : Refusal → String
  | unknownLevel name =>
    "Unknown log level '" ++ name ++ "'. Available: [" ++
      String.intercalate ", " (Severity.all.map fun s => Text.quoted s.name) ++ "]"
  | levelNotText kind => "'" ++ kind ++ "' object has no attribute 'upper'"
  | timeTooLarge => "int too large to convert to float"
  | missingArguments call names =>
    "ConsoleLogger." ++ call ++ "() missing " ++ toString names.length ++
      " required positional argument" ++ (if names.length = 1 then "" else "s") ++ ": " ++
      listNames names
  | extraArguments call taken given =>
    "ConsoleLogger." ++ call ++ "() takes " ++ toString taken ++
      " positional arguments but " ++ toString given ++ " were given"

end Console

end Chip8
