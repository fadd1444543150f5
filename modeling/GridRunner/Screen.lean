import GridRunner.Screen.Panes

/-!
# The screen

The command bar fills the lowest rows.  Above it the map takes seven tenths of the
width; beside it stand the figures and, below them, the log.  A sound and a scene
are drawn over all that.
-/

namespace GridRunner

namespace Screen

structure Size where
  width : Nat
  height : Nat
  deriving DecidableEq, Repr

structure Plan where
  map : Area
  stats : Area
  log : Area
  bar : Area
  scene : Area
  deriving DecidableEq, Repr

def barHeight : Nat := 3

def statsHeight : Nat := 8

/-- Where the first percents of a length end, to the nearest cell. -/
def cut (percent length : Nat) : Nat := (length * percent + 50) / 100

def plan (size : Size) : Plan :=
  let bar := min barHeight size.height
  let upper := size.height - bar
  let left := cut 70 size.width
  let right := size.width - left
  let stats := min statsHeight upper
  { map := ⟨0, 0, left, upper⟩
    stats := ⟨left, 0, right, stats⟩
    log := ⟨left, stats, right, upper - stats⟩
    bar := ⟨0, upper, size.width, bar⟩
    scene :=
      let x := cut 20 size.width
      let y := cut 25 size.height
      ⟨x, y, cut 80 size.width - x, cut 75 size.height - y⟩ }

def draw (size : Size) (game : Game) (display : Display) (theme : Theme) : Canvas :=
  let plan := plan size
  let panes :=
    drawBar theme game display.echo plan.bar
      (drawLog theme game.world.log plan.log
        (drawStats theme game display.lastSummary plan.stats
          (drawMap theme game plan.map (Canvas.blank size.width size.height))))
  let sounded :=
    match display.sound with
    | some cue => drawSound theme cue.label plan.map panes
    | none => panes
  match display.overlay with
  | some overlay => drawScene theme overlay.scene plan.scene sounded
  | none => sounded

end Screen
end GridRunner
