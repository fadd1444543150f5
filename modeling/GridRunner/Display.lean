import GridRunner.Keyboard
import GridRunner.Letter.Alphanumeric
import GridRunner.Session

/-!
# What is shown beside the game

Scenes over the map, a word for the sound of a key, the echo of the chord and the
last result.  A sound fades, and the finale closes by itself, after some time;
times are in milliseconds.
-/

namespace GridRunner

/-! ## The story

Three scenes told between levels.  The last one is told twice: before the final level, and when it
is cleared.
-/

inductive Scene where
  | boot
  | regex
  | zeroDay
  deriving DecidableEq, Repr

namespace Scene

/-- The scene told before a level. -/
def before? : Nat → Option Scene
  | 1 => some boot
  | 10 => some regex
  | 30 => some zeroDay
  | _ => none

def finale : Scene := zeroDay

def title : Scene → String
  | boot => "SYSTEM REBOOT..."
  | regex => "ACCESS GRANTED."
  | zeroDay => "ZERO-DAY ACHIEVED."

def lines : Scene → List String
  | boot =>
      ["You are a VIM-RUNNER.",
       "Infiltrate the GUI-COLLECTION tower.",
       "Objective: delete the bloat.",
       "Weapon: the keystroke."]
  | regex =>
      ["The basic motions are yours.",
       "But the data ahead is corrupted...",
       "Prepare for REGEX combat."]
  | zeroDay =>
      ["The bloated binary is purged.",
       "You have become a Vim Master.",
       "The tower answers to your keystrokes now."]

def text (scene : Scene) : String :=
  "\n".intercalate (scene.title :: "" :: scene.lines)

end Scene

/-! ## The display -/

structure Overlay where
  scene : Scene
  /-- Set for the finale: whatever closes it ends the program. -/
  closesAt : Option Nat := none
  deriving DecidableEq, Repr

structure SoundCue where
  label : String
  shownAt : Nat
  deriving DecidableEq, Repr

namespace SoundCue

def duration : Nat := 300

/-- Letters and digits clack, all other keys tick. -/
def ofKey (key : Key) (now : Nat) : SoundCue :=
  let label :=
    match key with
    | .char c => if Letter.isAlphanumeric c then "CLACK" else "TICK"
    | _ => "TICK"
  ⟨label, now⟩

def expired (cue : SoundCue) (now : Nat) : Bool := now - cue.shownAt ≥ duration

end SoundCue

inductive OverlayExit where
  | resume
  | quit
  deriving DecidableEq, Repr

structure Display where
  overlay : Option Overlay := none
  sound : Option SoundCue := none
  /-- What the command bar shows of the chord. -/
  echo : String := ""
  lastSummary : Option Summary := none
  deriving DecidableEq, Repr

namespace Display

def finaleDuration : Nat := 5000

def enterLevel (d : Display) (level : Nat) : Display :=
  match Scene.before? level with
  | some scene => { d with overlay := some { scene } }
  | none => d

def showFinale (d : Display) (now : Nat) : Display :=
  { d with overlay := some ⟨.finale, some (now + finaleDuration)⟩ }

def dismiss (d : Display) : OverlayExit × Display :=
  let exit :=
    match d.overlay with
    | some { closesAt := some _, .. } => OverlayExit.quit
    | _ => .resume
  (exit, { d with overlay := none })

def cue (d : Display) (key : Key) (now : Nat) : Display :=
  { d with sound := some (.ofKey key now) }

def finaleOver (d : Display) (now : Nat) : Bool :=
  match d.overlay with
  | some { closesAt := some deadline, .. } => now ≥ deadline
  | _ => false

def fade (d : Display) (now : Nat) : Display :=
  if d.sound.any (·.expired now) then { d with sound := none } else d

/-- Takes away what has had its time: whether that calls for a new drawing, and what the end
of the finale means. -/
def tick (d : Display) (now : Nat) : Bool × OverlayExit × Display :=
  let faded := d.fade now
  if d.finaleOver now then (true, .quit, { faded with overlay := none })
  else (d.sound.any (·.expired now), .resume, faded)

end Display
end GridRunner
