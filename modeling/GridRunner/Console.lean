import GridRunner.Chord
import GridRunner.Game

/-!
# The game at the keyboard

A console is a game with the chord typed so far.  Each key goes to the chord in
the mode of the game, and the game follows the signals of the chord.  A run of
operations is a fold, so a fact about every run is one about a single step.
-/

namespace GridRunner

namespace Game

def follow (g : Game) : Signal → Game
  | .mode mode => g.setMode mode
  | .action action => (g.apply action).2

end Game

structure Console where
  game : Game
  chord : Chord := .idle

namespace Console

def start (rules : Rules) : Console := { game := .start rules }

def press (c : Console) (key : Key) : String × Console :=
  let response := c.chord.press c.game.rules.wordJump c.game.world.mode key
  (response.echo, ⟨response.signals.foldl Game.follow c.game, response.chord⟩)

/-- Types a run of keys, collecting what the command bar shows after each. -/
def type (c : Console) : List Key → List String × Console
  | [] => ([], c)
  | key :: rest =>
      let (echo, c) := c.press key
      let (echoes, c) := c.type rest
      (echo :: echoes, c)

inductive Operation where
  | load (level : Level)
  | keys (keys : List Key)
  /-- A resolved command, counted as a keystroke. -/
  | apply (action : Action)
  /-- An action that counts no keystroke. -/
  | perform (action : Action)
  /-- A counted walk that counts no keystroke. -/
  | walk (dx dy : Int) (count : Nat)
  | say (message : String)
  | finish
  | setMode (mode : Mode)

inductive Reply where
  | done
  | refused (fault : Level.Fault)
  | echoes (echoes : List String)
  | outcome (outcome : Outcome)

def step (c : Console) : Operation → Reply × Console
  | .load level =>
      match c.game.load level with
      | .ok game => (.done, { c with game })
      | .error fault => (.refused fault, c)
  | .keys keys => let (echoes, c) := c.type keys; (.echoes echoes, c)
  | .apply action => let (outcome, game) := c.game.apply action; (.outcome outcome, { c with game })
  | .perform action =>
      let (outcome, game) := c.game.perform action
      (.outcome outcome, { c with game })
  | .walk dx dy count =>
      let (outcome, game) := c.game.perform (.move (.counted dx dy count))
      (.outcome outcome, { c with game })
  | .say message => (.done, { c with game := c.game.say message })
  | .finish => (.done, { c with game := c.game.finish })
  | .setMode mode => (.done, { c with game := c.game.setMode mode })

def run (c : Console) (operations : List Operation) : Console :=
  operations.foldl (fun c operation => (c.step operation).2) c

end Console
end GridRunner
