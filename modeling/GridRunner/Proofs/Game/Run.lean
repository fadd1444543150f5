import GridRunner.Game
import GridRunner.Proofs.Level.Playable

/-! # Runs of a game

Whatever drives a game, all that happens to it is a list of steps.  A fact about every run is a
fact about one step, and a fact about a level in play is one that loading brings about and every
other step keeps (`run_since_load`).
-/

namespace GridRunner
namespace Game

inductive Step where
  | load (level : Level)
  /-- A resolved command, counted as a keystroke. -/
  | apply (action : Action)
  /-- An action that counts no keystroke. -/
  | perform (action : Action)
  | say (message : String)
  | finish
  | setMode (mode : Mode)

/-- The game after a step; a level that is refused leaves it as it was. -/
def step (g : Game) : Step → Game
  | .load level =>
      match g.load level with
      | .ok loaded => loaded
      | .error _ => g
  | .apply action => (g.apply action).2
  | .perform action => (g.perform action).2
  | .say message => g.say message
  | .finish => g.finish
  | .setMode mode => g.setMode mode

def run (g : Game) (steps : List Step) : Game := steps.foldl step g

@[simp] theorem run_nil (g : Game) : g.run [] = g := rfl

@[simp] theorem run_cons (g : Game) (first : Step) (rest : List Step) :
    g.run (first :: rest) = (g.step first).run rest := rfl

theorem run_append (g : Game) (before after : List Step) :
    g.run (before ++ after) = (g.run before).run after := List.foldl_append

/-- What every step keeps, every run keeps. -/
theorem run_preserves {P : Game → Prop} {g : Game} {steps : List Step} (initial : P g)
    (preserves : ∀ s ∈ steps, ∀ g, P g → P (g.step s)) : P (g.run steps) := by
  induction steps generalizing g with
  | nil => exact initial
  | cons first rest ih =>
    have next := preserves first (by simp) g initial
    exact ih next fun s hs => preserves s (by simp [hs])

/-! ## Loads -/

theorem load_eq_ok {g loaded : Game} {level : Level} (h : g.load level = .ok loaded) :
    ∃ layout, level.layout g.rules = .ok layout ∧
      loaded = { g with
        world := (g.world.enter layout).note s!"Level {level.number}: {level.name}"
        level := some level } := by
  rw [load] at h
  cases read : level.layout g.rules with
  | error fault =>
    rw [read] at h
    cases h
  | ok layout =>
    rw [read] at h
    cases h
    exact ⟨layout, rfl, rfl⟩

theorem load_eq_error_iff {g : Game} {level : Level} {fault : Level.Fault} :
    g.load level = .error fault ↔ level.layout g.rules = .error fault := by
  rw [load]
  cases level.layout g.rules with
  | error found => simp
  | ok layout => simp

theorem exists_load_iff {g : Game} {level : Level} :
    (∃ loaded, g.load level = .ok loaded) ↔ level.map.Playable := by
  rw [← Level.exists_layout_iff, load]
  cases level.layout g.rules with
  | error fault => simp
  | ok layout => simp

theorem load_rules {g loaded : Game} {level : Level} (h : g.load level = .ok loaded) :
    loaded.rules = g.rules := by
  obtain ⟨layout, -, rfl⟩ := load_eq_ok h
  rfl

theorem step_rules (g : Game) (s : Step) : (g.step s).rules = g.rules := by
  cases s with
  | load level =>
    rw [step]
    cases loaded : g.load level with
    | error fault => rfl
    | ok after => exact load_rules loaded
  | apply action => rfl
  | perform action => rfl
  | say message => rfl
  | finish => rfl
  | setMode mode => rfl

theorem run_rules (g : Game) (steps : List Step) : (g.run steps).rules = g.rules := by
  apply run_preserves (P := fun after => after.rules = g.rules) rfl
  intro s _ after same
  rw [step_rules, same]

def landed? (g : Game) : Step → Option Level
  | .load level =>
      match g.load level with
      | .ok _ => some level
      | .error _ => none
  | _ => none

def lastLoad? (g : Game) : List Step → Option Level
  | [] => none
  | first :: rest => ((g.step first).lastLoad? rest).or (g.landed? first)

theorem lastLoad?_append (g : Game) (before after : List Step) :
    g.lastLoad? (before ++ after) = ((g.run before).lastLoad? after).or (g.lastLoad? before) := by
  induction before generalizing g with
  | nil => simp [lastLoad?]
  | cons first rest ih =>
    rw [List.cons_append, lastLoad?, ih, lastLoad?, run_cons, Option.or_assoc]

def Step.Plays (s : Step) : Prop := ∀ level, s ≠ .load level

theorem step_level (g : Game) {s : Step} (plays : s.Plays) : (g.step s).level = g.level := by
  cases s with
  | load level => exact absurd rfl (plays level)
  | apply action => rfl
  | perform action => rfl
  | say message => rfl
  | finish => rfl
  | setMode mode => rfl

theorem run_level (g : Game) {steps : List Step} (play : ∀ s ∈ steps, s.Plays) :
    (g.run steps).level = g.level := by
  apply run_preserves (P := fun after => after.level = g.level) rfl
  intro s hs after same
  rw [step_level after (play s hs), same]

theorem landed?_of_plays (g : Game) {s : Step} (plays : s.Plays) : g.landed? s = none := by
  cases s with
  | load level => exact absurd rfl (plays level)
  | apply action => rfl
  | perform action => rfl
  | say message => rfl
  | finish => rfl
  | setMode mode => rfl

theorem lastLoad?_of_plays (g : Game) {steps : List Step} (play : ∀ s ∈ steps, s.Plays) :
    g.lastLoad? steps = none := by
  induction steps generalizing g with
  | nil => rfl
  | cons first rest ih =>
    have later := ih (g.step first) fun s hs => play s (by simp [hs])
    rw [lastLoad?, later, landed?_of_plays g (play first (by simp)), Option.or_none]

section SinceLoad

variable {Q : Level → Game → Prop}
  (enters : ∀ (g : Game) (level : Level) (loaded : Game),
    g.load level = .ok loaded → Q level loaded)
  (keeps : ∀ (g : Game) (level : Level) (s : Step), s.Plays → Q level g → Q level (g.step s))

include enters keeps

theorem step_since_load {g : Game} {s : Step} {known : Option Level}
    (initial : ∀ level, known = some level → Q level g) {level : Level}
    (h : (g.landed? s).or known = some level) : Q level (g.step s) := by
  cases s with
  | load wanted =>
    rw [landed?] at h
    rw [step]
    cases loaded : g.load wanted with
    | error fault =>
      rw [loaded] at h
      exact initial level h
    | ok after =>
      rw [loaded] at h
      cases h
      exact enters g _ after loaded
  | apply action => exact keeps g level _ (fun _ => by simp) (initial level h)
  | perform action => exact keeps g level _ (fun _ => by simp) (initial level h)
  | say message => exact keeps g level _ (fun _ => by simp) (initial level h)
  | finish => exact keeps g level _ (fun _ => by simp) (initial level h)
  | setMode mode => exact keeps g level _ (fun _ => by simp) (initial level h)

theorem run_since_known_load {g : Game} {steps : List Step} {known : Option Level}
    (initial : ∀ level, known = some level → Q level g) {level : Level}
    (h : (g.lastLoad? steps).or known = some level) : Q level (g.run steps) := by
  induction steps generalizing g known with
  | nil => exact initial level h
  | cons first rest ih =>
    rw [lastLoad?, Option.or_assoc] at h
    exact ih (fun _ found => step_since_load enters keeps initial found) h

/-- What loading a level brings about, and every other step keeps, holds of the level in play. -/
theorem run_since_load {g : Game} {steps : List Step} {level : Level}
    (h : g.lastLoad? steps = some level) : Q level (g.run steps) := by
  have unloaded : ∀ level, (none : Option Level) = some level → Q level g := by
    intro level absent
    cases absent
  exact run_since_known_load enters keeps unloaded (by rw [Option.or_none, h])

end SinceLoad

end Game
end GridRunner
