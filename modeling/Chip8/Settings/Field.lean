import Chip8.Settings
import Chip8.Settings.Scalar

/-!
# The single settings

Each setting has a name, by which files and overrides know it, and a kind of value.
-/

namespace Chip8.Settings

inductive Field where
  | seed
  | shiftsSecond
  | jumpsByDigit
  | instructionFrequency
  | timerFrequency
deriving DecidableEq, Repr

namespace Field

/-- All settings, in order. -/
def all : List Field := [seed, shiftsSecond, jumpsByDigit, instructionFrequency, timerFrequency]

/-- The name of a setting. -/
def name : Field → String
  | seed => "seed"
  | shiftsSecond => "shift_uses_vy"
  | jumpsByDigit => "jump_uses_vx"
  | instructionFrequency => "instruction_frequency"
  | timerFrequency => "timer_frequency"

/-- The setting with a name. -/
def ofName? (s : String) : Option Field := all.find? fun f => f.name == s

theorem ofName?_name (f : Field) : ofName? f.name = some f := by
  cases f <;> decide

/-- The value of a setting. -/
def get (f : Field) (s : Settings) : Scalar :=
  match f with
  | seed => .int s.seed
  | shiftsSecond => .flag s.dialect.shiftsSecond
  | jumpsByDigit => .flag s.dialect.jumpsByDigit
  | instructionFrequency => .int s.instructionFrequency
  | timerFrequency => .int s.timerFrequency

/-- Settings with a new value of one of them, if it suits. -/
def set? (f : Field) (v : Scalar) (s : Settings) : Option Settings :=
  match f with
  | seed => v.toInt?.map fun i => { s with seed := i }
  | shiftsSecond => v.toBool?.map fun b => { s with dialect := { s.dialect with shiftsSecond := b } }
  | jumpsByDigit => v.toBool?.map fun b => { s with dialect := { s.dialect with jumpsByDigit := b } }
  | instructionFrequency => v.toInt?.map fun i => { s with instructionFrequency := i }
  | timerFrequency => v.toInt?.map fun i => { s with timerFrequency := i }

end Field

end Chip8.Settings
