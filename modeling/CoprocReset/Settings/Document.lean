import CoprocReset.Settings.Basic
import CoprocReset.Toml.Document

/-!
# Settings in a document

The overrides are in the sections `device`, `system_paths` and `lines` of a document, and in the
subsections `reset` and `boot_select` of the last. What is unknown is left alone, but every known
key has to have a value of the right shape: one that has not makes the whole document useless. A
section is a table; it may also be an array that begins with all its fields in their order, and a
date or time is taken for a section without fields.
-/

namespace CoprocReset

open Toml (Value Entries)

/-- The fields of a section by their names. -/
abbrev Overrides.FieldTable := String → Option Value

namespace Overrides

/-- The fields of a section whose known names are given in their order. -/
def fields (names : List String) : Value → Option FieldTable
  | .table _ entries => some fun name => entries.lookup name
  | .array _ elements =>
    if names.length ≤ elements.length then some fun name => (names.zip elements).lookup name
    else .none
  | .dateTime => some fun _ => .none
  | _ => .none

/-- A field that may be missing. One that is there has to have the right shape. -/
def optionalField {α : Type} (decode : Value → Option α) : Option Value → Option (Option α)
  | .none => some .none
  | some value => (decode value).map some

/-- A text. -/
def text : Value → Option String
  | .string text => some text
  | _ => .none

/-- Yes or no. -/
def truth : Value → Option Bool
  | .boolean truth => some truth
  | _ => .none

/-- The number of a line: 32 bits without a sign. -/
def lineNumber : Value → Option Nat
  | .integer number => if 0 ≤ number ∧ number ≤ 4294967295 then some number.toNat else .none
  | _ => .none

/-- The backend of a name. -/
def backendOfName : String → Option Backend
  | "sysfs" => some .sysfs
  | "memory" => some .memory
  | _ => .none

/-- Whether the value is a table or an array of nothing. -/
def holdsNothing : Value → Bool
  | .table _ [] | .array _ [] => true
  | _ => false

/-- A backend: its name, or a table with the name as its only key and nothing to say about it. -/
def backendField : Value → Option Backend
  | .string name => backendOfName name
  | .table _ [(name, value)] => if holdsNothing value then backendOfName name else .none
  | _ => .none

/-- What a subsection says about its line. -/
def lineSection (value : Value) : Option LineSection := do
  let field ← fields ["gpio", "active_low"] value
  let gpio ← optionalField lineNumber (field "gpio")
  let activeLow ← optionalField truth (field "active_low")
  return { gpio, activeLow }

/-- What the section says about the device. -/
def deviceSection (value : Value) : Option DeviceSection := do
  let field ← fields ["compatible", "backend"] value
  let compatible ← optionalField text (field "compatible")
  let backend ← optionalField backendField (field "backend")
  return { compatible, backend }

/-- What the section says about directories. -/
def pathsSection (value : Value) : Option PathsSection := do
  let field ← fields ["gpio_sysfs_dir"] value
  let gpioClass ← optionalField text (field "gpio_sysfs_dir")
  return { gpioClass }

/-- What the section says about the lines. -/
def linesSection (value : Value) : Option LinesSection := do
  let field ← fields ["reset", "boot_select"] value
  let reset ← optionalField lineSection (field "reset")
  let bootSelect ← optionalField lineSection (field "boot_select")
  return { reset, bootSelect }

/-- The overrides in the values of a document. -/
def ofEntries (entries : Entries) : Option Overrides := do
  let device ← optionalField deviceSection (entries.lookup "device")
  let paths ← optionalField pathsSection (entries.lookup "system_paths")
  let lines ← optionalField linesSection (entries.lookup "lines")
  return { device, paths, lines }

/-- The overrides in a text. -/
def ofDocument (text : String) : Except Failure Overrides :=
  match Toml.read text >>= ofEntries with
  | some overrides => .ok overrides
  | .none => .error (.badDocument text)

end Overrides

end CoprocReset
