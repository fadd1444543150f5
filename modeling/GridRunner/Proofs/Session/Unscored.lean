import GridRunner.Proofs.Session.Clearing

/-! # Play without the scores

A session asks its store only while it sums up a cleared level, and what the store answers goes
into the summary and nowhere else.  Two sessions that differ in their stores, of whatever kind and
however often they fail, are therefore the same apart from the scores (`Session.unscored`), key by
key.
-/

namespace GridRunner

def Summary.unscored (summary : Summary) : Summary :=
  { summary with best := none, improved := false }

def KeyReport.unscored (report : KeyReport) : KeyReport :=
  { report with completed := report.completed.map Summary.unscored }

namespace Session

def unscored {σ : Type} (s : Session σ) : Session Unit where
  past := s.past
  current := s.current
  ahead := s.ahead
  console := s.console
  scores := ()
  finished := s.finished

variable {σ τ : Type}

theorem startingAt_unscored (rules : Rules) (levels : List Level) (index : Nat) (a : σ) (b : τ) :
    (startingAt rules levels a index).map unscored =
      (startingAt rules levels b index).map unscored := by
  unfold startingAt
  split
  · rfl
  · split
    · rfl
    · split
      · rfl
      · split
        · rfl
        · rfl

variable [ScoreStore σ] [ScoreStore τ] {s : Session σ} {t : Session τ}

/-- A key does the same to both sessions, and they answer the same, apart from the scores. -/
theorem press_unscored (same : s.unscored = t.unscored) (key : Key) :
    (s.press key).1.map KeyReport.unscored = (t.press key).1.map KeyReport.unscored ∧
      (s.press key).2.unscored = (t.press key).2.unscored := by
  obtain ⟨past, current, ahead, console, a, finished⟩ := s
  obtain ⟨_, _, _, _, b, _⟩ := t
  -- The two are one session over two stores, so every test below is the same test in both.
  cases same
  unfold press
  dsimp only
  split
  · exact ⟨rfl, rfl⟩
  · split
    · cases ahead with
      | nil => exact ⟨rfl, rfl⟩
      | cons next ahead =>
        dsimp only
        split
        · exact ⟨rfl, rfl⟩
        · exact ⟨rfl, rfl⟩
    · exact ⟨rfl, rfl⟩

theorem play_unscored (same : s.unscored = t.unscored) (keys : List Key) :
    (s.play keys).1.map (Except.map KeyReport.unscored) =
        (t.play keys).1.map (Except.map KeyReport.unscored) ∧
      (s.play keys).2.unscored = (t.play keys).2.unscored := by
  induction keys generalizing s t with
  | nil => exact ⟨rfl, same⟩
  | cons key rest ih =>
    obtain ⟨reply, next⟩ := press_unscored same key
    obtain ⟨replies, last⟩ := ih next
    rw [play_cons, play_cons, List.map_cons, List.map_cons, reply, replies]
    exact ⟨rfl, last⟩

/-- What a summary says of the scores, given the store just before its run is recorded: what the
store answers, or that there is nothing better and nothing known if it fails. -/
structure Consults (scores : σ) (summary : Summary) : Prop where
  improved : summary.improved =
    match (ScoreStore.record summary.level summary.keystrokes scores).1 with
    | .ok answer => answer
    | .error _ => false
  best : summary.best =
    match (ScoreStore.best summary.level
      (ScoreStore.record summary.level summary.keystrokes scores).2).1 with
    | .ok answer => answer
    | .error _ => none

theorem consults_summarize (level : Level) (strokes : Nat) (scores : σ) :
    Consults scores (summarize level strokes scores).1 where
  improved := by
    rw [improved_summarize]
    show _ = match (ScoreStore.record level.number strokes scores).1 with
      | .ok answer => answer
      | .error _ => false
    cases (ScoreStore.record level.number strokes scores).1 <;> rfl
  best := by
    rw [best_summarize]
    show _ = match (ScoreStore.best level.number
        (ScoreStore.record level.number strokes scores).2).1 with
      | .ok answer => answer
      | .error _ => none
    cases (ScoreStore.best level.number (ScoreStore.record level.number strokes scores).2).1 <;> rfl

/-- Sessions begun alike over any two stores can be begun alike, and are played alike apart from the
scores.  A store that fails costs a summary no more than its two answers. -/
theorem startingAt_then_play_unscored {σ τ : Type} [ScoreStore σ] [ScoreStore τ] (rules : Rules)
    (levels : List Level) (index : Nat) (a : σ) (b : τ) :
    (startingAt rules levels a index).map unscored =
        (startingAt rules levels b index).map unscored ∧
      ∀ s t, startingAt rules levels a index = .ok s → startingAt rules levels b index = .ok t →
        ∀ keys,
          (s.play keys).1.map (Except.map KeyReport.unscored) =
              (t.play keys).1.map (Except.map KeyReport.unscored) ∧
            (s.play keys).2.unscored = (t.play keys).2.unscored ∧
            ∀ key summary, cleared? ((s.play keys).2.press key).1 = some summary →
              Consults (s.play keys).2.scores summary := by
  have begun := startingAt_unscored rules levels index a b
  refine ⟨begun, ?_⟩
  intro s t opened opened' keys
  have same : s.unscored = t.unscored := by
    rw [opened, opened'] at begun
    exact Except.ok.inj begun
  obtain ⟨replies, last⟩ := play_unscored same keys
  refine ⟨replies, last, ?_⟩
  intro key summary cleared
  have course := (onCourse_startingAt opened).1.play keys
  obtain ⟨-, -, rfl, -⟩ := cleared?_eq_some course cleared
  exact consults_summarize _ _ _

end Session

structure OutOfOrder where

instance : ScoreStore OutOfOrder where
  record _ _ store := (.error .io, store)
  best _ store := (.error .io, store)

namespace Session

theorem startingAt_then_play_unscored_out_of_order :
    let corridor : Level :=
      { number := 1, name := "Corridor", instructions := "", map := .ofRows ["@..>"], par := 1 }
    let levels := [corridor, corridor]
    let seed : ScoreBook := Table.empty.insert 1 3
    let keys : List Key :=
      [.char '2', .char 'l', .char 'l', .char 'i', .char '$', .escape, .char '$']
    ∃ (s : Session OutOfOrder) (t : Session ScoreBook),
      startingAt {} levels OutOfOrder.mk 0 = .ok s ∧ startingAt {} levels seed 0 = .ok t ∧
      (s.play keys).1.map (Except.map KeyReport.unscored) =
        (t.play keys).1.map (Except.map KeyReport.unscored) ∧
      (s.play keys).2.unscored = (t.play keys).2.unscored ∧
      ∀ key summary, cleared? ((s.play keys).2.press key).1 = some summary →
        summary.improved = false ∧ summary.best = none := by
  intro corridor levels seed keys
  have opens : ∃ s : Session OutOfOrder, startingAt {} levels OutOfOrder.mk 0 = .ok s :=
    (exists_startingAt_iff {} OutOfOrder.mk).mpr (by decide)
  have opens' : ∃ t : Session ScoreBook, startingAt {} levels seed 0 = .ok t :=
    (exists_startingAt_iff {} seed).mpr (by decide)
  obtain ⟨s, opened⟩ := opens
  obtain ⟨t, opened'⟩ := opens'
  obtain ⟨replies, last, answers⟩ :=
    (startingAt_then_play_unscored {} levels 0 OutOfOrder.mk seed).2 s t opened opened' keys
  refine ⟨s, t, opened, opened', replies, last, ?_⟩
  intro key summary cleared
  have consults := answers key summary cleared
  exact ⟨consults.improved, consults.best⟩

end Session
end GridRunner
