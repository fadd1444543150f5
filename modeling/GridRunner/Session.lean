import GridRunner.Console
import GridRunner.Score.Book

/-!
# Sessions

A session plays a list of levels in order.  Clearing a level grades the run,
records it and loads the next level; clearing the last one ends the session.
Every level is checked before the first key, so play never meets a broken map.
-/

namespace GridRunner

/-! ## Ratings

A run is graded by its keystrokes against the par of the level: S up to par, A up to one and a half
times par, B up to two and a half times, C beyond.
-/

inductive Rating where
  | s
  | a
  | b
  | c
  deriving DecidableEq, Repr

namespace Rating

def grade (strokes par : Nat) : Rating :=
  if strokes ≤ par then s
  else if 2 * strokes ≤ 3 * par then a
  else if 2 * strokes ≤ 5 * par then b
  else c

def letter : Rating → String
  | s => "S"
  | a => "A"
  | b => "B"
  | c => "C"

def title : Rating → String
  | s => "VIM MASTER"
  | a => "EFFICIENT"
  | b => "COMPETENT"
  | c => "NOVICE"

def label (r : Rating) : String := r.letter ++ " - " ++ r.title

end Rating

/-! ## Reports and errors -/

structure Summary where
  level : Nat
  name : String
  keystrokes : Nat
  par : Nat
  rating : Rating
  /-- The best score once this run is recorded, if the store answers. -/
  best : Option Nat
  improved : Bool
  deriving DecidableEq, Repr

structure KeyReport where
  echo : String := ""
  completed : Option Summary := none
  /-- The last level is cleared. -/
  finished : Bool := false
  deriving DecidableEq, Repr

inductive SessionError where
  | noLevels
  | startOutOfRange (index count : Nat)
  | invalidLevel (index : Nat) (fault : Level.Fault)
  deriving DecidableEq, Repr

namespace SessionError

def message : SessionError → String
  | noLevels => "session requires at least one level"
  | startOutOfRange index count => s!"start index {index} is out of range for {count} levels"
  | invalidLevel index _ => s!"level at index {index} cannot be loaded"

end SessionError

/-- A list of levels with a place in it, and the game of the level at that place. -/
structure Session (σ : Type) where
  /-- Cleared levels, and those skipped at the start, latest first. -/
  past : List Level
  /-- The level in play, or the last one once the session is finished. -/
  current : Level
  ahead : List Level
  console : Console
  scores : σ
  finished : Bool := false

namespace Session

variable {σ : Type}

def index (s : Session σ) : Nat := s.past.length

def levels (s : Session σ) : List Level := s.past.reverse ++ s.current :: s.ahead

def game (s : Session σ) : Game := s.console.game

/-- Loads the levels of a list one after the other into a game, up to the first that cannot be
played: its place and what is wrong with it. -/
def probe? (g : Game) (place : Nat) : List Level → Option (Nat × Level.Fault)
  | [] => none
  | level :: rest =>
      match g.load level with
      | .ok g => probe? g (place + 1) rest
      | .error fault => some (place, fault)

/-- Begins at a place in a list of levels, all of which are checked first. -/
def startingAt (rules : Rules) (levels : List Level) (scores : σ) (index : Nat) :
    Except SessionError (Session σ) :=
  if levels.isEmpty then .error .noLevels
  else
    match levels.drop index with
    | [] => .error (.startOutOfRange index levels.length)
    | current :: ahead =>
        match probe? (.start rules) 0 levels with
        | some (place, fault) => .error (.invalidLevel place fault)
        | none =>
            match (Game.start rules).load current with
            | .error fault => .error (.invalidLevel index fault)
            | .ok game =>
                let past := (levels.take index).reverse
                .ok { past, current, ahead, console := { game }, scores }

/-- Begins by the rules of a sheet.  The log is made after the start is found in the list and before
any level is looked at; none if the program stops there. -/
def ofSheet? (sheet : RuleSheet) (levels : List Level) (scores : σ) (index : Nat) :
    Option (Except SessionError (Session σ)) :=
  if levels.isEmpty then some (.error .noLevels)
  else if levels.length ≤ index then some (.error (.startOutOfRange index levels.length))
  else sheet.rules?.map fun rules => startingAt rules levels scores index

def start (rules : Rules) (levels : List Level) (scores : σ) : Except SessionError (Session σ) :=
  startingAt rules levels scores 0

variable [ScoreStore σ]

/-- Records the run of the level just cleared and sums it up.  A store that fails costs the
summary its best score, not the player the level. -/
def summarize (level : Level) (keystrokes : Nat) (scores : σ) : Summary × σ :=
  let (recorded, scores) := ScoreStore.record level.number keystrokes scores
  let (best, scores) := ScoreStore.best level.number scores
  ({ level := level.number
     name := level.name
     keystrokes
     par := level.par
     rating := .grade keystrokes level.par
     best := best.toOption.join
     improved := recorded.toOption.getD false }, scores)

/-- Routes one key to the game and moves on when it clears the level. -/
def press (s : Session σ) (key : Key) : Except SessionError KeyReport × Session σ :=
  if s.finished then (.ok { finished := true }, s)
  else
    let (echo, console) := s.console.press key
    if console.game.world.complete then
      let (summary, scores) := summarize s.current console.game.world.keystrokes s.scores
      match s.ahead with
      | [] =>
          (.ok { completed := some summary, finished := true },
            { s with console := { console with chord := .idle }, scores, finished := true })
      | next :: ahead =>
          let moved : Session σ :=
            { past := s.current :: s.past
              current := next
              ahead
              console := { console with chord := .idle }
              scores }
          match console.game.load next with
          | .ok game =>
              (.ok { completed := some summary }, { moved with console := { game } })
          | .error fault => (.error (.invalidLevel moved.index fault), moved)
    else (.ok { echo }, { s with console })

def play (s : Session σ) : List Key → List (Except SessionError KeyReport) × Session σ
  | [] => ([], s)
  | key :: rest =>
      let (reply, s) := s.press key
      let (replies, s) := s.play rest
      (reply :: replies, s)

end Session
end GridRunner
