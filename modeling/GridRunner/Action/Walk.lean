import GridRunner.Action
import GridRunner.World

/-!
# Walking

A walk repeats one step until it is used up or something stops it.  A step that
would leave the grid ends on the nearest cell inside, so a long step at an angle
slides along the edge; a step that changes nothing has met the edge.
-/

namespace GridRunner.World

/-- What keeps the player from stepping onto a cell of the grid. -/
def stopAt? (w : World) (destination : Position) : Option Stop :=
  if destination = w.player.position then some .edge
  else
    let underfoot := if w.isFloor destination then none else some Stop.wall
    match w.entityAt? destination with
    | some entity =>
        if entity.kind = .exit then some .exit
        else if entity.kind.isObstacle then some (.blocked entity.name)
        else underfoot
    | none => underfoot

/-- The world after a walk met what stopped it. -/
def halt (w : World) : Stop → World
  | .exit => { w with complete := true }
  | .blocked name => w.note s!"Path blocked by: {name}"
  | .wall => w.note "Collided with boundary."
  | .edge => w

def target (w : World) (dx dy : Int) : Position := w.clamp (w.player.position.shift dx dy)

def placePlayer (w : World) (p : Position) : World :=
  { w with player := { w.player with position := p } }

/-- At most the given number of further steps, after `taken` steps. -/
def walk (dx dy : Int) : Nat → Nat → World → Walked × World
  | 0, taken, w => (⟨taken, none⟩, w)
  | repeats + 1, taken, w =>
      let destination := w.target dx dy
      match w.stopAt? destination with
      | some stop => (⟨taken, some stop⟩, w.halt stop)
      | none => walk dx dy repeats (taken + 1) (w.placePlayer destination)

/-- A walk raises the aura exactly if the player typed a count above one. -/
def move (m : Move) (w : World) : Walked × World :=
  walk m.dx m.dy m.repeats 0 { w with aura := decide (m.count > 1) || w.efficient }

end GridRunner.World
