import GridRunner.Action.Combat
import GridRunner.Action.Pockets
import GridRunner.Action.Walk

/-!
# The game

The rules, the world they govern and the level it was loaded from.  A resolved
command counts as one keystroke; an action performed on its own counts none.
-/

namespace GridRunner

namespace World

def perform (rules : Rules) (action : Action) (w : World) : Outcome × World :=
  match action with
  | .move m => let (r, w) := w.move m; (.moved r, w)
  | .yank register => let (r, w) := w.yank register; (.yanked r, w)
  | .put register => let (r, w) := w.put register; (.put r, w)
  | .purge command => let (r, w) := w.purge rules command; (.purged r, w)
  | .delete _ count => let (r, w) := w.delete rules count; (.struck r, w)

end World

structure Game where
  rules : Rules
  world : World
  /-- The level last loaded. -/
  level : Option Level := none

namespace Game

def start (rules : Rules) : Game where
  rules
  world := (World.empty rules).note "VimRunner Online. Neural link established."

/-- A game by the rules of a sheet; none if the program stops at its log. -/
def ofSheet? (sheet : RuleSheet) : Option Game := sheet.rules?.map start

/-- Starts a level, unless its map cannot be played. -/
def load (level : Level) (g : Game) : Except Level.Fault Game :=
  match level.layout g.rules with
  | .error fault => .error fault
  | .ok layout =>
      .ok { g with
        world := (g.world.enter layout).note s!"Level {level.number}: {level.name}"
        level := some level }

def perform (action : Action) (g : Game) : Outcome × Game :=
  let (outcome, world) := g.world.perform g.rules action
  (outcome, { g with world })

def apply (action : Action) (g : Game) : Outcome × Game :=
  { g with world := { g.world with keystrokes := capped (g.world.keystrokes + 1) } }.perform action

def say (message : String) (g : Game) : Game := { g with world := g.world.note message }

def finish (g : Game) : Game := { g with world := { g.world with complete := true } }

def setMode (mode : Mode) (g : Game) : Game := { g with world := { g.world with mode } }

def par (g : Game) : Nat := (g.level.map Level.par).getD 0

end Game
end GridRunner
