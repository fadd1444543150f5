import GridRunner.Proofs.Session.Progress

/-! # What a key leaves with the scores

A key that clears a level reports one summary, and the scores are those after its record.  Any
other key reports none and leaves the scores as they are.  So what every record keeps, a whole
session keeps.
-/

namespace GridRunner
namespace Session

variable {σ : Type} [ScoreStore σ] {s : Session σ}

theorem best_summarize (level : Level) (strokes : Nat) (scores : σ) :
    (summarize level strokes scores).1.best =
      (ScoreStore.best level.number
        (ScoreStore.record level.number strokes scores).2).1.toOption.join := rfl

theorem improved_summarize (level : Level) (strokes : Nat) (scores : σ) :
    (summarize level strokes scores).1.improved =
      (ScoreStore.record level.number strokes scores).1.toOption.getD false := rfl

/-- The two things that a key can do to the scores. -/
theorem cleared?_press (h : s.OnCourse) (key : Key) :
    (cleared? (s.press key).1 = none ∧ (s.press key).2.scores = s.scores) ∨
      (s.finished = false ∧ (s.console.press key).2.game.world.complete = true ∧
        cleared? (s.press key).1 = some (s.summaryAfter key).1 ∧
        (s.press key).2.scores = (s.summaryAfter key).2) := by
  obtain ⟨-, pressed⟩ | ⟨-, -, pressed⟩ | ⟨unfinished, complete, -, pressed⟩ |
    ⟨unfinished, complete, level, ahead, game, -, -, pressed⟩ := press_cases h key
  · rw [pressed]
    exact Or.inl ⟨rfl, rfl⟩
  · rw [pressed]
    exact Or.inl ⟨rfl, rfl⟩
  · rw [pressed]
    exact Or.inr ⟨unfinished, complete, rfl, rfl⟩
  · rw [pressed]
    exact Or.inr ⟨unfinished, complete, rfl, rfl⟩

theorem cleared?_eq_some (h : s.OnCourse) {key : Key} {summary : Summary}
    (cleared : cleared? (s.press key).1 = some summary) :
    s.finished = false ∧ (s.console.press key).2.game.world.complete = true ∧
      summary = (s.summaryAfter key).1 ∧ (s.press key).2.scores = (s.summaryAfter key).2 := by
  obtain ⟨uncleared, -⟩ | ⟨unfinished, complete, told, kept⟩ := cleared?_press h key
  · rw [uncleared] at cleared
    cases cleared
  · rw [told, Option.some.injEq] at cleared
    exact ⟨unfinished, complete, cleared.symm, kept⟩

end Session
end GridRunner
