import GridRunner.Console
import GridRunner.Proofs.Game.Run

/-! # The steps behind a run of the console

Keys and operations reach the game as steps: a run of the console is the run of its script
(`run_game`), and only an operation that loads a level puts a load into the script.
-/

namespace GridRunner

def Signal.step : Signal → Game.Step
  | .mode m => .setMode m
  | .action a => .apply a

theorem Signal.step_plays (s : Signal) : s.step.Plays := by
  intro level
  cases s <;> simp [step]

theorem Signal.steps_play (signals : List Signal) :
    ∀ s ∈ signals.map Signal.step, s.Plays := by
  intro s hs
  obtain ⟨signal, -, rfl⟩ := List.mem_map.mp hs
  exact signal.step_plays

theorem Game.follow_eq (g : Game) (s : Signal) : g.follow s = g.step s.step := by
  cases s <;> rfl

namespace Console

def response (c : Console) (key : Key) : Chord.Response :=
  c.chord.press c.game.rules.wordJump c.game.world.mode key

theorem press_eq (c : Console) (key : Key) :
    c.press key = ((c.response key).echo,
      ⟨c.game.run ((c.response key).signals.map Signal.step), (c.response key).chord⟩) := by
  have follow : Game.follow = fun g s => g.step s.step := by
    funext g s
    exact g.follow_eq s
  rw [press, follow, Game.run, List.foldl_map]
  rfl

theorem press_level (c : Console) (key : Key) :
    (c.press key).2.game.level = c.game.level := by
  rw [press_eq, Game.run_level _ (Signal.steps_play _)]

/-- The steps that a run of keys amounts to. -/
def keySteps (c : Console) : List Key → List Game.Step
  | [] => []
  | key :: rest => (c.response key).signals.map Signal.step ++ (c.press key).2.keySteps rest

theorem type_game (c : Console) (keys : List Key) :
    (c.type keys).2.game = c.game.run (c.keySteps keys) := by
  induction keys generalizing c with
  | nil => rfl
  | cons key rest ih =>
    have first : (c.press key).2.game = c.game.run ((c.response key).signals.map Signal.step) := by
      rw [press_eq]
    rw [keySteps, Game.run_append, ← first]
    exact ih (c.press key).2

theorem keySteps_play (c : Console) (keys : List Key) : ∀ s ∈ c.keySteps keys, s.Plays := by
  induction keys generalizing c with
  | nil => simp [keySteps]
  | cons key rest ih =>
    intro s hs
    rw [keySteps, List.mem_append] at hs
    cases hs with
    | inl first => exact Signal.steps_play _ s first
    | inr later => exact ih (c.press key).2 s later

def operationSteps (c : Console) : Operation → List Game.Step
  | .load level => [.load level]
  | .keys keys => c.keySteps keys
  | .apply action => [.apply action]
  | .perform action => [.perform action]
  | .walk dx dy count => [.perform (.move (.counted dx dy count))]
  | .say message => [.say message]
  | .finish => [.finish]
  | .setMode mode => [.setMode mode]

theorem step_game (c : Console) (operation : Operation) :
    (c.step operation).2.game = c.game.run (c.operationSteps operation) := by
  cases operation with
  | load level =>
    rw [step, operationSteps, Game.run_cons, Game.run_nil, Game.step]
    cases c.game.load level <;> rfl
  | keys keys => exact c.type_game keys
  | apply action => rfl
  | perform action => rfl
  | walk dx dy count => rfl
  | say message => rfl
  | finish => rfl
  | setMode mode => rfl

def script (c : Console) : List Operation → List Game.Step
  | [] => []
  | first :: rest => c.operationSteps first ++ (c.step first).2.script rest

theorem run_cons (c : Console) (first : Operation) (rest : List Operation) :
    c.run (first :: rest) = (c.step first).2.run rest := rfl

theorem script_append (c : Console) (before after : List Operation) :
    c.script (before ++ after) = c.script before ++ (c.run before).script after := by
  induction before generalizing c with
  | nil => rfl
  | cons first rest ih =>
    rw [List.cons_append, script, ih, script, run_cons, List.append_assoc]

theorem run_game (c : Console) (operations : List Operation) :
    (c.run operations).game = c.game.run (c.script operations) := by
  induction operations generalizing c with
  | nil => rfl
  | cons first rest ih =>
    rw [run_cons, ih, script, Game.run_append, ← step_game]

theorem run_rules (c : Console) (operations : List Operation) :
    (c.run operations).game.rules = c.game.rules := by
  rw [run_game, Game.run_rules]

/-! ## Loads -/

def landed? (c : Console) (operation : Operation) : Option Level :=
  match operation, (c.step operation).1 with
  | .load level, .done => some level
  | _, _ => none

def lastLoad? (c : Console) : List Operation → Option Level
  | [] => none
  | first :: rest => ((c.step first).2.lastLoad? rest).or (c.landed? first)

theorem landed?_eq (c : Console) (operation : Operation) :
    c.landed? operation = c.game.lastLoad? (c.operationSteps operation) := by
  cases operation with
  | load level =>
    rw [operationSteps, Game.lastLoad?, Game.lastLoad?, Option.none_or]
    simp only [landed?, Game.landed?, step]
    cases c.game.load level <;> rfl
  | keys keys => exact (c.game.lastLoad?_of_plays (c.keySteps_play keys)).symm
  | apply action => rfl
  | perform action => rfl
  | walk dx dy count => rfl
  | say message => rfl
  | finish => rfl
  | setMode mode => rfl

theorem lastLoad?_eq (c : Console) (operations : List Operation) :
    c.lastLoad? operations = c.game.lastLoad? (c.script operations) := by
  induction operations generalizing c with
  | nil => rfl
  | cons first rest ih =>
    rw [lastLoad?, ih, landed?_eq, script, Game.lastLoad?_append, ← step_game]

end Console
end GridRunner
