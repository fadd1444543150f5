import GridRunner.Table
import GridRunner.Toml.Document

/-!
# Preferences

What a player chooses in `settings.toml`: a palette, whether keys sound, and
which key stands for which.
-/

namespace GridRunner

structure Preferences where
  theme : String := "tokyonight"
  sound : Bool := true
  /-- The pressed key and the key it stands for, by the name of the pressed one. -/
  keyMap : Table String String := Table.empty
  deriving DecidableEq

namespace Preferences

def keyMapOf? (entries : Toml.Entries) : Option (Table String String) := do
  let pairs ← entries.mapM fun (key, value) =>
    match value with
    | .text name => some (key, name)
    | _ => none
  some (Table.ofList pairs)

/-- The name under which a date or a time stands where a table is asked for. -/
def momentName : String := "$__toml_private_datetime"

/-- Reads a document; unknown keys are passed over. -/
def ofText? (text : String) : Option Preferences := do
  let entries ← Toml.ofText? text
  let standard : Preferences := {}
  let theme ←
    match entries.lookup "theme" with
    | none => some standard.theme
    | some (.text name) => some name
    | some _ => none
  let sound ←
    match entries.lookup "sound_enabled" with
    | none => some standard.sound
    | some (.bool value) => some value
    | some _ => none
  let keyMap ←
    match entries.lookup "key_map" with
    | none => some standard.keyMap
    | some (.table _ pairs) => keyMapOf? pairs
    | some (.moment text) => some (Table.ofList [(momentName, text)])
    | some _ => none
  some { theme, sound, keyMap }

/-- The one character of a name of length one. -/
def single? (name : String) : Option Char :=
  match name.toList with
  | [c] => some c
  | _ => none

/-- The entries of the key map that name single characters; the others have no effect. -/
def remap (p : Preferences) : Table Char Char :=
  Table.ofList (p.keyMap.entries.filterMap fun (pressed, meant) => do
    some (← single? pressed, ← single? meant))

end Preferences
end GridRunner
