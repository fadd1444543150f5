import GridRunner.Controls
import GridRunner.Preferences
import GridRunner.Screen

/-!
# The client

The client turns events into keys for the session and keeps the screen up to date.
It looks up once per turn: first at the clock, then at one event, and for that at the
clock again.  While a scene is shown the next key the game knows takes the scene away
and goes no further.
-/

namespace GridRunner

inductive Event where
  | key (event : KeyEvent)
  | resize (size : Screen.Size)
  /-- Something the client does not care for, such as a change of focus. -/
  | other
  deriving DecidableEq, Repr

/-- A turn of the client: the time at which it begins, and the event that it meets, if any, with
the time at which that is handled. -/
structure Turn where
  now : Nat
  event : Option (Nat × Event) := none
  deriving DecidableEq, Repr

inductive Flow where
  | running
  | closed
  | failed (error : SessionError)
  deriving DecidableEq, Repr

structure Client (σ : Type) where
  session : Session σ
  remap : Table Char Char
  theme : Theme
  /-- Whether keys sound. -/
  sounds : Bool
  display : Display := {}
  size : Screen.Size
  /-- What was last drawn on the screen. -/
  drawn : Canvas := []

namespace Client

variable {σ : Type}

def picture (c : Client σ) : Canvas := Screen.draw c.size c.session.game c.display c.theme

def redraw (c : Client σ) : Client σ := { c with drawn := c.picture }

/-- The client of a session, with the scene before its level and a first drawing. -/
def start (session : Session σ) (preferences : Preferences) (size : Screen.Size) : Client σ :=
  let display : Display := {}
  redraw {
    session
    remap := preferences.remap
    theme := .ofName preferences.theme
    sounds := preferences.sound
    display := display.enterLevel session.current.number
    size }

/-- What is shown once a key has been played: its echo, and the result and the next scene if it
cleared the level. -/
def report (now number : Nat) (r : KeyReport) (d : Display) : Display :=
  let echoed := { d with echo := r.echo }
  match r.completed with
  | none => echoed
  | some summary =>
      let summed := { echoed with lastSummary := some summary }
      if r.finished then summed.showFinale now else summed.enterLevel number

variable [ScoreStore σ]

def forward (now : Nat) (key : Key) (c : Client σ) : Flow × Client σ :=
  let display := if c.sounds then c.display.cue key now else c.display
  let (result, session) := c.session.press key
  match result with
  | .error e => (.failed e, { c with session, display })
  | .ok r => (.running, { c with session, display := report now session.current.number r display })

def press (now : Nat) (event : KeyEvent) (c : Client σ) : Flow × Client σ :=
  match event.command c.remap with
  | .quit => (.closed, c)
  | .ignore => (.running, c)
  | .forward key =>
      if c.display.overlay.isSome then
        match c.display.dismiss with
        | (.quit, display) => (.closed, { c with display })
        | (.resume, display) => (.running, { c with display })
      else c.forward now key

/-- Handles one event.  Only a key that goes down and a new size call for a drawing. -/
def handle (now : Nat) (event : Event) (c : Client σ) : Flow × Client σ :=
  match event with
  | .key event =>
      match event.stroke with
      | .press =>
          match c.press now event with
          | (.running, c) => (.running, c.redraw)
          | ended => ended
      | _ => (.running, c)
  | .resize size => (.running, { c with size }.redraw)
  | .other => (.running, c)

/-- One look at the clock and at the next event, if there is one. -/
def tick (turn : Turn) (c : Client σ) : Flow × Client σ :=
  match c.display.tick turn.now with
  | (_, .quit, display) => (.closed, { c with display })
  | (stale, .resume, display) =>
      let c := { c with display }
      let c := if stale then c.redraw else c
      match turn.event with
      | some (now, event) => c.handle now event
      | none => (.running, c)

/-- Takes turns as long as the client goes on; what it does not come to is left over. -/
def loop (c : Client σ) : List Turn → Flow × Client σ × List Turn
  | [] => (.running, c, [])
  | turn :: rest =>
      match c.tick turn with
      | (.running, c) => c.loop rest
      | (flow, c) => (flow, c, rest)

/-- Runs a script in which no event keeps the clock waiting. -/
def run (c : Client σ) (script : List (Nat × Option Event)) :
    Flow × Client σ × List (Nat × Option Event) :=
  let turns := script.map fun (now, event) => ({ now, event := event.map (now, ·) } : Turn)
  let (flow, c, left) := c.loop turns
  (flow, c, script.drop (script.length - left.length))

end Client
end GridRunner
