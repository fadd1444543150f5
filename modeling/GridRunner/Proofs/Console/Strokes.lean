import GridRunner.Proofs.Chord.Commands
import GridRunner.Proofs.Console.Script
import GridRunner.Proofs.World.Change

/-! # Counted keys

A console that began with an idle chord, in normal mode and with nothing counted has read its keys
as a new chord does, and has counted the actions that chord told (`Counted.press`).  Only a key that
tells an action can complete the level.
-/

namespace GridRunner

theorem capped_capped_add_one (n : Nat) : capped (capped n + 1) = capped (n + 1) := by
  unfold capped
  omega

namespace Game

theorem follow_mode (g : Game) (s : Signal) :
    (g.follow s).world.mode = s.modeAfter g.world.mode := by
  cases s with
  | mode m => rfl
  | action a =>
    exact (World.perform_spares g.rules a
      { g.world with keystrokes := capped (g.world.keystrokes + 1) }).mode

theorem follow_keystrokes (g : Game) (a : Action) :
    (g.follow (.action a)).world.keystrokes = capped (g.world.keystrokes + 1) :=
  (World.perform_spares g.rules a
    { g.world with keystrokes := capped (g.world.keystrokes + 1) }).keystrokes

theorem foldl_follow_mode (g : Game) (signals : List Signal) :
    (signals.foldl follow g).world.mode = signals.foldl Signal.modeAfter g.world.mode := by
  induction signals generalizing g with
  | nil => rfl
  | cons s rest ih => rw [List.foldl_cons, ih, follow_mode, List.foldl_cons]

/-- Signals count as many keystrokes as there are actions among them. -/
theorem foldl_follow_keystrokes {g : Game} {n : Nat} (counted : g.world.keystrokes = capped n)
    (signals : List Signal) :
    (signals.foldl follow g).world.keystrokes =
      capped (n + (signals.filterMap Signal.action?).length) := by
  induction signals generalizing g n with
  | nil => exact counted
  | cons s rest ih =>
    cases s with
    | mode m =>
      have kept : (g.follow (.mode m)).world.keystrokes = capped n := counted
      exact ih kept
    | action a =>
      have next : (g.follow (.action a)).world.keystrokes = capped (n + 1) := by
        rw [follow_keystrokes, counted, capped_capped_add_one]
      have told : (Signal.action a :: rest).filterMap Signal.action? =
          a :: rest.filterMap Signal.action? := rfl
      rw [List.foldl_cons, ih next, told, List.length_cons, Nat.add_assoc, Nat.add_comm 1]

theorem foldl_follow_complete (g : Game) {signals : List Signal}
    (silent : signals.filterMap Signal.action? = []) :
    (signals.foldl follow g).world.complete = g.world.complete := by
  induction signals generalizing g with
  | nil => rfl
  | cons s rest ih =>
    cases s with
    | mode m => exact ih (g.follow (.mode m)) silent
    | action a => cases silent

theorem foldl_follow_rules (g : Game) (signals : List Signal) :
    (signals.foldl follow g).rules = g.rules := by
  induction signals generalizing g with
  | nil => rfl
  | cons s rest ih =>
    rw [List.foldl_cons, ih]
    cases s <;> rfl

end Game

namespace Console

/-- The console has read the keys, and counted the actions they told, as from a fresh level. -/
structure Counted (jump : Int32) (typed : List Key) (c : Console) : Prop where
  wordJump : c.game.rules.wordJump = jump
  mode : c.game.world.mode = (Chord.reached jump typed).1
  chord : c.chord = (Chord.reached jump typed).2
  strokes : c.game.world.keystrokes = capped (Chord.told jump typed).length

variable {c : Console} {jump : Int32} {typed : List Key}

theorem counted_load {g loaded : Game} {level : Level} (h : g.load level = .ok loaded) :
    Counted g.rules.wordJump [] { game := loaded } := by
  obtain ⟨layout, -, rfl⟩ := Game.load_eq_ok h
  exact ⟨rfl, rfl, rfl, rfl⟩

theorem Counted.response (h : c.Counted jump typed) (key : Key) :
    c.response key = Chord.reply jump typed key := by
  rw [Console.response, h.wordJump, h.mode, h.chord]
  rfl

theorem press_game (c : Console) (key : Key) :
    (c.press key).2.game = (c.response key).signals.foldl Game.follow c.game := rfl

theorem press_rules (c : Console) (key : Key) :
    (c.press key).2.game.rules = c.game.rules := by
  rw [press_game, Game.foldl_follow_rules]

theorem Counted.press (h : c.Counted jump typed) (key : Key) :
    (c.press key).2.Counted jump (typed ++ [key]) := by
  have next : Chord.reached jump (typed ++ [key]) =
      ((Chord.reply jump typed key).modeAfter (Chord.reached jump typed).1,
        (Chord.reply jump typed key).chord) := by
    rw [Chord.reached, Chord.feed_concat]
  refine ⟨?_, ?_, ?_, ?_⟩
  · rw [press_rules, h.wordJump]
  · rw [press_game, Game.foldl_follow_mode, h.response, h.mode, next]
    rfl
  · rw [next, ← h.response]
    rfl
  · rw [press_game, Game.foldl_follow_keystrokes h.strokes, h.response, Chord.told_concat,
      List.length_append]
    rfl

/-- A key that completes the level has told an action. -/
theorem Counted.told_ne_nil (h : c.Counted jump typed) {key : Key}
    (incomplete : c.game.world.complete = false)
    (complete : (c.press key).2.game.world.complete = true) :
    Chord.told jump (typed ++ [key]) ≠ [] := by
  intro none
  rw [Chord.told_concat, List.append_eq_nil_iff] at none
  have silent : (c.response key).signals.filterMap Signal.action? = [] := by
    rw [h.response]
    exact none.2
  rw [press_game, Game.foldl_follow_complete _ silent, incomplete] at complete
  cases complete

end Console
end GridRunner
