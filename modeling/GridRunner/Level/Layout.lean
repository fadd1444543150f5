import GridRunner.Entity
import GridRunner.Level
import GridRunner.Rules

/-!
# From a map to the first state of a level

Some glyphs of a map are markers: they place an entity and leave floor behind.
The others are the bare grid.  A map is accepted when it is a nonempty rectangle
within the size limit that holds one player.
-/

namespace GridRunner

inductive Marker where
  | player
  | enemy
  | boss
  | exit
  | rubble
  | key (letter : Char)
  | lock (glyph : Char)
  deriving DecidableEq, Repr

namespace Marker

/-- The marker a glyph stands for; five glyphs are reserved, and of the others the
lowercase ones are keys and the uppercase ones locks. -/
def ofGlyph? (glyph : Char) : Option Marker :=
  match glyph with
  | '@' => some .player
  | 'G' => some .enemy
  | 'B' => some .boss
  | '>' => some .exit
  | 'R' => some .rubble
  | glyph =>
      if Letter.isLower glyph then some (.key glyph)
      else if Letter.isUpper glyph then some (.lock glyph)
      else none

def hostile? (rules : Rules) (position : Position) : Marker → Option Entity
  | .enemy => some (.enemy position rules.enemyHp)
  | .boss => some (.boss position rules.bossHp)
  | _ => none

def fixture? (position : Position) : Marker → Option Entity
  | .exit => some (.exit position)
  | .rubble => some (.rubble position)
  | .key letter => some (.key position letter)
  | .lock glyph => some (.lock position glyph)
  | _ => none

end Marker

namespace Grid

def rowCells (y : Nat) (row : List Char) : List (Position × Char) :=
  row.zipIdx.map fun (glyph, x) => (⟨x, y⟩, glyph)

def cells (g : Grid) : List (Position × Char) :=
  g.zipIdx.flatMap fun (row, y) => rowCells y row

def marks (g : Grid) : List (Position × Marker) :=
  g.cells.filterMap fun (position, glyph) => (Marker.ofGlyph? glyph).map (position, ·)

/-- The grid with floor under every marker. -/
def bare (g : Grid) : Grid :=
  g.map (·.map fun glyph => if (Marker.ofGlyph? glyph).isSome then floor else glyph)

def spawns (g : Grid) : List Position :=
  g.marks.filterMap fun (position, marker) => if marker = .player then some position else none

end Grid

structure Layout where
  tiles : Grid
  width : Nat
  height : Nat
  player : Position
  hostiles : List Entity
  fixtures : List Entity
  deriving DecidableEq, Repr

namespace Level

inductive Fault where
  | emptyMap
  | tooLarge (width height : Nat)
  | raggedRow (row expected found : Nat)
  | duplicatePlayer (first second : Position)
  | missingPlayer
  deriving DecidableEq, Repr

namespace Fault

def message : Fault → String
  | emptyMap => "invalid level data: map template is empty"
  | tooLarge width height =>
      s!"invalid level data: map {width}x{height} exceeds the supported size"
  | raggedRow row expected found =>
      s!"invalid level data: row {row} has width {found}, expected {expected}"
  | duplicatePlayer first second =>
      s!"invalid level data: second player marker at {second.text} (first at {first.text})"
  | missingPlayer => "invalid level data: no player marker '@'"

def code : Fault → String
  | emptyMap => "LEVEL_EMPTY_MAP"
  | tooLarge .. => "LEVEL_TOO_LARGE"
  | raggedRow .. => "LEVEL_RAGGED_ROW"
  | duplicatePlayer .. => "LEVEL_DUPLICATE_PLAYER"
  | missingPlayer => "LEVEL_MISSING_PLAYER"

end Fault

/-- The first row whose length is not the given width. -/
def ragged? (width : Nat) (g : Grid) : Option (List Char × Nat) :=
  g.zipIdx.find? fun (row, _) => row.length != width

/-- Reads a map: its shape is checked first, then its player markers. -/
def layout (rules : Rules) (level : Level) : Except Fault Layout :=
  let width := level.map.width
  let height := level.map.height
  if width = 0 then .error .emptyMap
  else if width > Rules.maxExtent ∨ height > Rules.maxExtent then .error (.tooLarge width height)
  else
    match ragged? width level.map with
    | some (row, y) => .error (.raggedRow y width row.length)
    | none =>
        match level.map.spawns with
        | [] => .error .missingPlayer
        | first :: second :: _ => .error (.duplicatePlayer first second)
        | [player] =>
            let marks := level.map.marks
            .ok {
              tiles := level.map.bare
              width
              height
              player
              hostiles := marks.filterMap fun (position, marker) => marker.hostile? rules position
              fixtures := marks.filterMap fun (position, marker) => marker.fixture? position }

end Level
end GridRunner
