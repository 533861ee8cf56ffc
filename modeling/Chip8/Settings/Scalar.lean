import Chip8.Document.Scalar

/-!
# Scalars as settings

A scalar is taken for a setting if it has the setting's kind, or is a text that reads as such a
value.
-/

namespace Chip8.Scalar

/-- Whether a scalar asks to leave a setting as it is. -/
def isOpen (v : Scalar) : Bool := v == text "???"

/-- A scalar as an integer setting: an integer, or a text that reads as one. -/
def toInt? : Scalar → Option Int
  | int i => some i
  | text s => (Text.readInteger s).toOption
  | _ => none

/-- A text as a flag: a number that is not zero, or a word for yes or no in letters of any
case. -/
def flagOfText? (s : String) : Option Bool :=
  match Text.readInteger s with
  | .ok i => some (i != 0)
  | .error _ =>
    let word := s.toLower
    if ["yes", "y", "on", "true"].contains word then some true
    else if ["no", "n", "off", "false"].contains word then some false
    else none

/-- A scalar as a flag setting. -/
def toBool? : Scalar → Option Bool
  | flag b => some b
  | int i => some (i != 0)
  | text s => flagOfText? s
  | _ => none

end Chip8.Scalar
