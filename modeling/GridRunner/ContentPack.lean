import GridRunner.Curriculum
import GridRunner.Level.Listing
import GridRunner.Rules
import GridRunner.Toml.Document

/-!
# Content packs

A pack is a folder with two files, either of which may be missing: `config.toml`
changes the rules and `levels.ron` replaces the built-in levels.
-/

namespace GridRunner

/-! ## Rules from a document

A TOML document names the rules it changes.  Keys that name no rule are passed over; a value of the
wrong kind or out of range is an error. -/

namespace RuleSheet

/-- The integer under a key, or the default; none if it is no integer of the range. -/
def integer? (entries : Toml.Entries) (key : String) (least greatest default : Int) : Option Int :=
  match entries.lookup key with
  | none => some default
  | some (.integer value) => if least ≤ value && value ≤ greatest then some value else none
  | some _ => none

def ofText? (text : String) : Option RuleSheet := do
  let entries ← Toml.ofText? text
  let standard : RuleSheet := {}
  let signed := fun key (default : Int32) =>
    (integer? entries key (-2147483648) 2147483647 default.toInt).map Int32.ofInt
  let capacity ←
    integer? entries "message_capacity" 0 18446744073709551615 standard.messageCapacity
  some {
    messageCapacity := capacity.toNat
    playerHp := ← signed "player_hp" standard.playerHp
    enemyHp := ← signed "enemy_hp" standard.enemyHp
    bossHp := ← signed "boss_hp" standard.bossHp
    purgeDamage := ← signed "regex_damage" standard.purgeDamage
    strikeDamage := ← signed "melee_damage" standard.strikeDamage
    auraDamage := ← signed "aura_damage" standard.auraDamage
    wordJump := ← signed "word_jump" standard.wordJump }

end RuleSheet

/-! ## Packs -/

/-- What a file that is to be read turns out to be. -/
inductive Source where
  | missing
  | text (content : String)
  /-- Something stands there that cannot be read as text. -/
  | unreadable
  deriving DecidableEq, Repr

inductive ContentError where
  | unreadable (path : String)
  | badRules
  | badLevels (path : String) (fault : Level.ListFault)
  deriving DecidableEq, Repr

namespace ContentError

def message : ContentError → String
  | unreadable path => "Failed to read file " ++ path
  | badRules => "Failed to parse config TOML"
  | badLevels path fault => "Failed to load levels from " ++ path ++ ": " ++ fault.message

end ContentError

def Source.levels (path : String) : Source → Except ContentError (List Level)
  | .text content => (Level.listOfText content).mapError (.badLevels path)
  | _ => .error (.unreadable path)

structure ContentPack where
  folder : String
  config : Source := .missing
  levels : Source := .missing

namespace ContentPack

/-- The rules of the pack, or the standard ones. -/
def loadRules (pack : ContentPack) : Except ContentError RuleSheet :=
  match pack.config with
  | .missing => .ok {}
  | .text content =>
      match RuleSheet.ofText? content with
      | some sheet => .ok sheet
      | none => .error .badRules
  | .unreadable => .error (.unreadable (pack.folder ++ "/config.toml"))

/-- The levels of the pack, or the built-in ones. -/
def loadLevels (pack : ContentPack) : Except ContentError (List Level) :=
  match pack.levels with
  | .missing => .ok Curriculum.levels
  | source => source.levels (pack.folder ++ "/levels.ron")

end ContentPack
end GridRunner
