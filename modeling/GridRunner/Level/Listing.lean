import GridRunner.Level
import GridRunner.Ron.Value
import GridRunner.Rules

/-!
# Level lists

A level list is a RON list of records.  Its levels have distinct numbers; whether
their maps can be played is not asked here.
-/

namespace GridRunner

namespace Ron.Value

/-- A number in 32 bits without sign. -/
def toCount? : Value → Option Nat
  | .integer value suffix =>
      if 0 ≤ value && value ≤ countLimit && (suffix.isNone || suffix == some "u32") then
        some value.toNat
      else none
  | _ => none

def toText? : Value → Option String
  | .text s => some s
  | _ => none

def toTexts? : Value → Option (List String)
  | .list items => items.mapM toText?
  | _ => none

end Ron.Value

namespace Level

/-- The fields of a level; of these only the last two may be missing. -/
def fieldNames : List String :=
  ["number", "name", "instructions", "map", "unlocked_commands", "par_keystrokes"]

/-- Whether a record may bear a name; it may have none unless names are to be explicit. -/
def isRecordName (extensions : List Ron.Extension) (name : Option String) : Bool :=
  match name with
  | none => !extensions.contains .explicitStructNames
  | some name => name == "LevelDescriptor"

/-- Reads a record.  Fields come in any order and unknown ones are passed over, but no known field
may come twice. -/
def ofRecord? (extensions : List Ron.Extension) : Ron.Value → Option Level
  | .record name fields => do
      let known := (fields.map (·.1)).filter fieldNames.contains
      if !known.eraseDups.length == known.length then none
      if !isRecordName extensions name then none
      some {
        number := ← (← fields.lookup "number").toCount?
        name := ← (← fields.lookup "name").toText?
        instructions := ← (← fields.lookup "instructions").toText?
        map := .ofRows (← (← fields.lookup "map").toTexts?)
        commands :=
          commandSet (← ((fields.lookup "unlocked_commands").map (·.toTexts?)).getD (some []))
        par := ← ((fields.lookup "par_keystrokes").map (·.toCount?)).getD (some 0) }
  | _ => none

inductive ListFault where
  | malformed
  | empty
  | duplicateNumber (number : Nat)
  deriving DecidableEq, Repr

namespace ListFault

def message : ListFault → String
  | malformed => "Failed to parse levels RON"
  | empty => "Level list is empty"
  | duplicateNumber number => s!"Duplicate level number {number}"

end ListFault

/-- The number of the first level whose number came before. -/
def duplicate? : List Nat → List Level → Option Nat
  | _, [] => none
  | seen, level :: rest =>
      if seen.contains level.number then some level.number
      else duplicate? (level.number :: seen) rest

def checkList (levels : List Level) : Except ListFault (List Level) :=
  if levels.isEmpty then .error .empty
  else
    match duplicate? [] levels with
    | some number => .error (.duplicateNumber number)
    | none => .ok levels

def listOfText (text : String) : Except ListFault (List Level) :=
  match Ron.Document.ofText? text with
  | some { extensions, value := .list items } =>
      match items.mapM (ofRecord? extensions) with
      | some levels => checkList levels
      | none => .error .malformed
  | _ => .error .malformed

end Level
end GridRunner
