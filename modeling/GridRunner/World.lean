import GridRunner.Level.Layout
import GridRunner.MessageLog
import GridRunner.Keyboard

/-!
# The state of a level in play

The bare grid, the entities over it, and what the player carries from level to
level: the registers and the message log.
-/

namespace GridRunner

structure World where
  /-- Floor and walls; entities are never part of it. -/
  tiles : Grid := []
  width : Nat := 0
  height : Nat := 0
  player : Entity
  /-- Enemies and bosses, in the order the map places them. -/
  hostiles : List Entity := []
  /-- Keys, locks, rubble and exits, in the order the map places them. -/
  fixtures : List Entity := []
  registers : Registers := Table.empty
  log : MessageLog
  mode : Mode := .normal
  /-- Commands resolved since the level was loaded. -/
  keystrokes : Nat := 0
  complete : Bool := false
  /-- Raised by a counted motion; strikes then deal the aura's damage. -/
  aura : Bool := false
  /-- A second cause of the aura, which no action raises. -/
  efficient : Bool := false

namespace World

def empty (rules : Rules) : World where
  player := .player .origin rules.playerHp
  log := .ofCapacity rules.capacity

def contains (w : World) (p : Position) : Bool :=
  decide (0 ≤ p.x) && decide (0 ≤ p.y) && decide (p.x < w.width) && decide (p.y < w.height)

def clamp (w : World) (p : Position) : Position :=
  ⟨max 0 (min p.x (w.width - 1 : Nat)), max 0 (min p.y (w.height - 1 : Nat))⟩

def tile? (w : World) (p : Position) : Option Char :=
  if w.contains p then w.tiles.at? p.x.toNat p.y.toNat else none

def isFloor (w : World) (p : Position) : Bool := w.tile? p == some Grid.floor

/-- The first entity on a cell, hostiles before fixtures; the player does not count. -/
def entityAt? (w : World) (p : Position) : Option Entity :=
  (w.hostiles ++ w.fixtures).find? (·.position = p)

/-- Every entity in drawing order: what comes later covers what comes before. -/
def entities (w : World) : List Entity := w.fixtures ++ w.hostiles ++ [w.player]

def note (w : World) (message : String) : World := { w with log := w.log.push message }

/-- Draws an entity over a grid; one that stands outside is not seen. -/
def draw (g : Grid) (e : Entity) : Grid :=
  if 0 ≤ e.position.x ∧ 0 ≤ e.position.y then
    g.paint e.position.x.toNat e.position.y.toNat e.symbol
  else g

/-- The grid as the player sees it. -/
def picture (w : World) : Grid := w.entities.foldl draw w.tiles

/-- Puts the first state of a level in place of the old one.  The registers, the log and
the strength of the player stay. -/
def enter (w : World) (layout : Layout) : World where
  tiles := layout.tiles
  width := layout.width
  height := layout.height
  player := { w.player with position := layout.player }
  hostiles := layout.hostiles
  fixtures := layout.fixtures
  registers := w.registers
  log := w.log

end World
end GridRunner
