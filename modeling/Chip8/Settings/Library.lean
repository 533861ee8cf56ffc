import Chip8.Settings
import Chip8.Settings.Refusal

/-!
# Loading settings

Settings are loaded with the help of a library of configurations, which reads files and overrides
as mappings, merges mappings into a record of settings and gives back the settings of a record.
What is decided here is the order: the defaults first, then the file, then the overrides.
-/

namespace Chip8.Settings

/-- What loading uses of a library of configurations. -/
structure Library where
  /-- Keys and values that are not yet settings. -/
  Mapping : Type
  /-- Settings that can still change. -/
  Record : Type
  /-- The record of settings. -/
  record : Settings → Record
  /-- The mapping that the text of a file holds. -/
  ofFile : String → Except Refusal Mapping
  /-- The mapping of a list of overrides. -/
  ofOverrides : List String → Except Refusal Mapping
  /-- Merge a mapping into a record. -/
  merge : Record → Mapping → Except Refusal Record
  /-- The settings of a record. -/
  settings : Record → Except Refusal Settings

namespace Library

variable (lib : Library)

/-- The defaults, changed by a file if there is one. -/
def fromFile : Option String → Except Refusal lib.Record
  | some text => lib.ofFile text >>= lib.merge (lib.record {})
  | none => .ok (lib.record {})

/-- A record, changed by overrides if there are any. -/
def overridden (overrides : List String) (r : lib.Record) : Except Refusal lib.Record :=
  if overrides.isEmpty then .ok r else lib.ofOverrides overrides >>= lib.merge r

/-- The defaults, changed by a file and then by overrides. -/
def load (content : Option String) (overrides : List String) : Except Refusal Settings :=
  lib.fromFile content >>= lib.overridden overrides >>= lib.settings

end Library

end Chip8.Settings
