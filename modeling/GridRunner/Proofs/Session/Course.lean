import GridRunner.Proofs.Console.Script
import GridRunner.Proofs.Session.Validation
import GridRunner.Score.File

/-! # What a key does to a session

A session keeps to its course: the game is in the current level, the level is complete exactly
when the session is finished, and every level ahead has been checked.  On course a key does one
of four things (`press_cases`), and none of them is an error.
-/

namespace GridRunner
namespace Session

variable {σ : Type}

structure OnCourse (s : Session σ) : Prop where
  playable : ∀ level ∈ s.levels, level.map.Playable
  level : s.game.level = some s.current
  complete : s.game.world.complete = s.finished
  last : s.finished = true → s.ahead = []

/-- Just after a level was entered: normal mode, nothing typed and nothing counted. -/
structure Fresh (s : Session σ) : Prop where
  mode : s.game.world.mode = .normal
  chord : s.console.chord = .idle
  keystrokes : s.game.world.keystrokes = 0

theorem onCourse_startingAt {rules : Rules} {levels : List Level} {scores : σ} {index : Nat}
    {s : Session σ} (h : startingAt rules levels scores index = .ok s) :
    s.OnCourse ∧ s.Fresh ∧ s.finished = false ∧ s.levels = levels ∧
      s.current :: s.ahead = levels.drop index := by
  obtain ⟨playable, inside, game, loaded, rfl⟩ := startingAt_eq_ok rules scores h
  obtain ⟨layout, -, rfl⟩ := Game.load_eq_ok loaded
  have parts : levels[index] :: levels.drop (index + 1) = levels.drop index :=
    (List.drop_eq_getElem_cons inside).symm
  have whole : (levels.take index).reverse.reverse ++ levels[index] :: levels.drop (index + 1) =
      levels := by
    rw [List.reverse_reverse, parts, List.take_append_drop]
  refine ⟨⟨?_, rfl, rfl, fun finished => by cases finished⟩, ⟨rfl, rfl, rfl⟩, rfl, whole, parts⟩
  intro level member
  have listed : level ∈ (levels.take index).reverse.reverse ++ levels[index] ::
      levels.drop (index + 1) := member
  rw [whole] at listed
  exact playable level listed

theorem startingAt_scores {rules : Rules} {levels : List Level} {scores : σ} {index : Nat}
    {s : Session σ} (h : startingAt rules levels scores index = .ok s) : s.scores = scores := by
  obtain ⟨-, -, -, -, rfl⟩ := startingAt_eq_ok rules scores h
  rfl

section Press

variable [ScoreStore σ] {s : Session σ}

/-- The summary of the current level, once a key has cleared it, and the scores then kept. -/
def summaryAfter (s : Session σ) (key : Key) : Summary × σ :=
  summarize s.current (s.console.press key).2.game.world.keystrokes s.scores

/-- Everything that a key can do to a session on course. -/
theorem press_cases (h : s.OnCourse) (key : Key) :
    (s.finished = true ∧ s.press key = (.ok { finished := true }, s)) ∨
    (s.finished = false ∧ (s.console.press key).2.game.world.complete = false ∧
      s.press key =
        (.ok { echo := (s.console.press key).1 }, { s with console := (s.console.press key).2 })) ∨
    (s.finished = false ∧ (s.console.press key).2.game.world.complete = true ∧ s.ahead = [] ∧
      s.press key =
        (.ok { completed := some (s.summaryAfter key).1, finished := true },
          { s with
            console := { (s.console.press key).2 with chord := .idle }
            scores := (s.summaryAfter key).2
            finished := true })) ∨
    (s.finished = false ∧ (s.console.press key).2.game.world.complete = true ∧
      ∃ level ahead game, s.ahead = level :: ahead ∧
        (s.console.press key).2.game.load level = .ok game ∧
        s.press key =
          (.ok { completed := some (s.summaryAfter key).1 },
            { past := s.current :: s.past
              current := level
              ahead
              console := { game }
              scores := (s.summaryAfter key).2 })) := by
  cases finished : s.finished with
  | true => exact Or.inl ⟨rfl, by rw [press, if_pos finished]⟩
  | false =>
    right
    have unfinished : ¬ s.finished = true := by simp [finished]
    cases complete : (s.console.press key).2.game.world.complete with
    | false =>
      left
      refine ⟨rfl, rfl, ?_⟩
      rw [press, if_neg unfinished]
      simp [complete, finished]
    | true =>
      right
      cases ahead : s.ahead with
      | nil =>
        left
        refine ⟨rfl, rfl, rfl, ?_⟩
        rw [press, if_neg unfinished]
        simp [complete, ahead, summaryAfter]
      | cons level rest =>
        right
        have playable : level.map.Playable := h.playable level (by simp [levels, ahead])
        have accepted : ∃ game, (s.console.press key).2.game.load level = .ok game :=
          Game.exists_load_iff.mpr playable
        obtain ⟨game, loaded⟩ := accepted
        refine ⟨rfl, rfl, level, rest, game, rfl, loaded, ?_⟩
        rw [press, if_neg unfinished]
        simp [complete, ahead, summaryAfter, loaded]

theorem OnCourse.press (h : s.OnCourse) (key : Key) : (s.press key).2.OnCourse := by
  obtain ⟨finished, pressed⟩ | ⟨unfinished, going, pressed⟩ | ⟨unfinished, done, last, pressed⟩ |
    ⟨unfinished, done, level, ahead, game, next, loaded, pressed⟩ := press_cases h key
  · rw [pressed]
    exact h
  · rw [pressed]
    refine ⟨h.playable, ?_, going.trans unfinished.symm, h.last⟩
    exact (Console.press_level s.console key).trans h.level
  · rw [pressed]
    refine ⟨h.playable, ?_, done, fun _ => last⟩
    exact (Console.press_level s.console key).trans h.level
  · rw [pressed]
    obtain ⟨layout, -, rfl⟩ := Game.load_eq_ok loaded
    refine ⟨?_, rfl, rfl, fun finished => by cases finished⟩
    intro later member
    exact h.playable later (by simpa [levels, next] using member)

theorem press_levels (h : s.OnCourse) (key : Key) : (s.press key).2.levels = s.levels := by
  obtain ⟨-, pressed⟩ | ⟨-, -, pressed⟩ | ⟨-, -, -, pressed⟩ |
    ⟨-, -, level, ahead, game, next, -, pressed⟩ := press_cases h key
  · rw [pressed]
  · rw [pressed]
    rfl
  · rw [pressed]
    rfl
  · rw [pressed]
    simp [levels, next]

theorem press_ok (h : s.OnCourse) (key : Key) : ∃ report, (s.press key).1 = .ok report := by
  obtain ⟨-, pressed⟩ | ⟨-, -, pressed⟩ | ⟨-, -, -, pressed⟩ |
    ⟨-, -, level, ahead, game, -, -, pressed⟩ := press_cases h key
  all_goals exact ⟨_, congrArg Prod.fst pressed⟩

/-- A key that clears the last level finishes the session, and the report says so. -/
theorem press_report (h : s.OnCourse) (unfinished : s.finished = false) (key : Key) :
    ∃ report, (s.press key).1 = .ok report ∧ report.finished = (s.press key).2.finished ∧
      (report.finished = true → report.completed.isSome = true) := by
  obtain ⟨finished, -⟩ | ⟨-, -, pressed⟩ | ⟨-, -, -, pressed⟩ |
    ⟨-, -, level, ahead, game, -, -, pressed⟩ :=
    press_cases h key
  · rw [unfinished] at finished
    cases finished
  · rw [pressed]
    exact ⟨_, rfl, unfinished.symm, fun finished => by cases finished⟩
  · rw [pressed]
    exact ⟨_, rfl, rfl, fun _ => rfl⟩
  · rw [pressed]
    exact ⟨_, rfl, rfl, fun _ => rfl⟩

/-! ## Runs of keys -/

theorem play_cons (s : Session σ) (key : Key) (rest : List Key) :
    s.play (key :: rest) =
      ((s.press key).1 :: ((s.press key).2.play rest).1, ((s.press key).2.play rest).2) := rfl

theorem play_append (s : Session σ) (keys rest : List Key) :
    (s.play (keys ++ rest)).2 = ((s.play keys).2.play rest).2 := by
  induction keys generalizing s with
  | nil => rfl
  | cons key keys ih => exact ih (s.press key).2

theorem OnCourse.play (h : s.OnCourse) (keys : List Key) : (s.play keys).2.OnCourse := by
  induction keys generalizing s with
  | nil => exact h
  | cons key rest ih => exact ih (h.press key)

theorem play_levels (h : s.OnCourse) (keys : List Key) : (s.play keys).2.levels = s.levels := by
  induction keys generalizing s with
  | nil => rfl
  | cons key rest ih =>
    rw [play_cons]
    exact (ih (h.press key)).trans (press_levels h key)

end Press

end Session
end GridRunner
