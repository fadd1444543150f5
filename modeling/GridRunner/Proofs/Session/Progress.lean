import GridRunner.Proofs.Session.Course

/-! # Progress through a list of levels

The levels cleared by a run of keys, followed by those still to be played, are the levels the
session began with (`play_remaining`): none is skipped and none comes twice.
-/

namespace GridRunner

def Level.heading (level : Level) : Nat × String × Nat := (level.number, level.name, level.par)

def Summary.heading (summary : Summary) : Nat × String × Nat :=
  (summary.level, summary.name, summary.par)

namespace Session

variable {σ : Type}

def remaining (s : Session σ) : List Level := if s.finished then [] else s.current :: s.ahead

def cleared? (reply : Except SessionError KeyReport) : Option Summary :=
  reply.toOption.bind KeyReport.completed

def summaries (replies : List (Except SessionError KeyReport)) : List Summary :=
  replies.filterMap cleared?

theorem summaries_cons (reply : Except SessionError KeyReport)
    (rest : List (Except SessionError KeyReport)) :
    summaries (reply :: rest) = (cleared? reply).toList ++ summaries rest := by
  rw [summaries, List.filterMap_cons]
  cases cleared? reply <;> rfl

theorem length_levels (s : Session σ) : s.levels.length = s.index + (s.ahead.length + 1) := by
  rw [levels, List.length_append, List.length_reverse, List.length_cons, index]

theorem getElem?_levels_index (s : Session σ) : s.levels[s.index]? = some s.current := by
  rw [levels, index, List.getElem?_append_right (by simp), List.length_reverse, Nat.sub_self]
  rfl

theorem length_remaining (s : Session σ) :
    s.remaining.length = if s.finished then 0 else s.ahead.length + 1 := by
  cases finished : s.finished <;> simp [remaining, finished]

variable [ScoreStore σ] {s : Session σ}

theorem summaryAfter_heading (s : Session σ) (key : Key) :
    (s.summaryAfter key).1.heading = s.current.heading := rfl

theorem press_remaining (h : s.OnCourse) (key : Key) :
    (cleared? (s.press key).1).toList.map Summary.heading ++
      (s.press key).2.remaining.map Level.heading = s.remaining.map Level.heading := by
  obtain ⟨finished, pressed⟩ | ⟨unfinished, -, pressed⟩ | ⟨unfinished, -, last, pressed⟩ |
    ⟨unfinished, -, level, ahead, game, next, -, pressed⟩ := press_cases h key
  · rw [pressed]
    rfl
  · rw [pressed]
    rfl
  · rw [pressed]
    simp [cleared?, Except.toOption, remaining, unfinished, last, summaryAfter_heading]
  · rw [pressed]
    simp [cleared?, Except.toOption, remaining, unfinished, next, summaryAfter_heading]

/-- Cleared levels and remaining ones make up the levels that were remaining before. -/
theorem play_remaining (h : s.OnCourse) (keys : List Key) :
    (summaries (s.play keys).1).map Summary.heading ++
      (s.play keys).2.remaining.map Level.heading = s.remaining.map Level.heading := by
  induction keys generalizing s with
  | nil => rfl
  | cons key rest ih =>
    have now := press_remaining h key
    have later := ih (h.press key)
    rw [play_cons, summaries_cons, List.map_append, List.append_assoc, later, now]

theorem length_play (s : Session σ) (keys : List Key) :
    (s.play keys).1.length = keys.length := by
  induction keys generalizing s with
  | nil => rfl
  | cons key rest ih => rw [play_cons, List.length_cons, ih, List.length_cons]

theorem press_fresh (h : s.OnCourse) {key : Key} (cleared : (cleared? (s.press key).1).isSome)
    (unfinished : (s.press key).2.finished = false) : (s.press key).2.Fresh := by
  obtain ⟨-, pressed⟩ | ⟨-, -, pressed⟩ | ⟨-, -, -, pressed⟩ |
    ⟨-, -, level, ahead, game, -, loaded, pressed⟩ := press_cases h key
  · rw [pressed] at cleared
    cases cleared
  · rw [pressed] at cleared
    cases cleared
  · rw [pressed] at unfinished
    cases unfinished
  · rw [pressed]
    obtain ⟨layout, -, rfl⟩ := Game.load_eq_ok loaded
    exact ⟨rfl, rfl, rfl⟩

theorem press_of_finished (finished : s.finished = true) (key : Key) :
    s.press key = (.ok { echo := "", completed := none, finished := true }, s) := by
  rw [press, if_pos finished]

/-- How a session stands that began at a place in a list of levels, after some answers. -/
structure Progressed (levels : List Level) (start : Nat)
    (replies : List (Except SessionError KeyReport)) (s : Session σ) : Prop where
  listed : s.levels = levels
  headings : (summaries replies).map Summary.heading =
    ((levels.drop start).take (summaries replies).length).map Level.heading
  place : s.index = min (start + (summaries replies).length) (levels.length - 1)
  finished_iff : s.finished = true ↔ (summaries replies).length = levels.length - start
  complete : s.game.world.complete = s.finished
  in_play : s.game.level = levels[s.index]? ∧ levels[s.index]? = some s.current
  /-- A level that the next key enters starts fresh. -/
  fresh : ∀ key, (cleared? (s.press key).1).isSome → (s.press key).2.finished = false →
    (s.press key).2.Fresh
  settled : s.finished = true → ∀ key,
    s.press key = (.ok { echo := "", completed := none, finished := true }, s)

/-- However a session is played, it has cleared the levels from its start on in order, one
summary each, and stands at the next one until the last is cleared. -/
theorem play_progress {rules : Rules} {levels : List Level} {scores : σ} {start : Nat}
    {s : Session σ} (opened : startingAt rules levels scores start = .ok s) (keys : List Key) :
    s.Fresh ∧ (s.play keys).1.length = keys.length ∧
      Progressed levels start (s.play keys).1 (s.play keys).2 := by
  obtain ⟨course, fresh, unfinished, whole, parts⟩ := onCourse_startingAt opened
  have course' := course.play keys
  have whole' : (s.play keys).2.levels = levels := (play_levels course keys).trans whole
  have here : levels[(s.play keys).2.index]? = some (s.play keys).2.current := by
    rw [← whole']
    exact getElem?_levels_index _
  have conserved := play_remaining course keys
  have begun : s.remaining = levels.drop start := by simp [remaining, unfinished, parts]
  rw [begun] at conserved
  -- The counts behind the place: what is cleared, what remains, and what lies ahead.
  have count := congrArg List.length conserved
  rw [List.length_append, List.length_map, List.length_map, List.length_map, List.length_drop,
    length_remaining] at count
  have total : levels.length = (s.play keys).2.index + ((s.play keys).2.ahead.length + 1) := by
    rw [← whole', length_levels]
  have ahead := congrArg List.length parts
  rw [List.length_cons, List.length_drop] at ahead
  have last : (s.play keys).2.finished = true → (s.play keys).2.ahead.length = 0 := by
    intro finished
    rw [course'.last finished]
    rfl
  refine ⟨fresh, length_play s keys, whole', ?_, ?_, ?_, course'.complete,
    ⟨course'.level.trans here.symm, here⟩, fun key => press_fresh course',
    fun finished => press_of_finished finished⟩
  · have cleared := congrArg (List.take (summaries (s.play keys).1).length) conserved
    rw [List.take_left' (List.length_map _)] at cleared
    rw [cleared, List.map_take]
  · cases finished : (s.play keys).2.finished with
    | true =>
      have := last finished
      simp only [finished, if_true] at count
      omega
    | false =>
      simp only [finished, Bool.false_eq_true, if_false] at count
      omega
  · cases finished : (s.play keys).2.finished with
    | true =>
      simp only [finished, if_true] at count
      simp only [true_iff]
      omega
    | false =>
      simp only [finished, Bool.false_eq_true, if_false] at count
      simp only [Bool.false_eq_true, false_iff]
      omega

theorem play_progress_corridors :
    let corridor := fun number : Nat =>
      ({ number, name := "Corridor", instructions := "",
         map := .ofRows ["@..>"], par := 1 } : Level)
    let levels := [corridor 7, corridor 8, corridor 8]
    let keys : List Key := [.char 'v', .char '5', .char 'l', .char '2', .char '$', .char 'i']
    ∃ s : Session ScoreBook, startingAt {} levels Table.empty 1 = .ok s ∧ s.Fresh ∧
      (s.play keys).1.length = keys.length ∧
      Progressed levels 1 (s.play keys).1 (s.play keys).2 := by
  intro corridor levels keys
  have opens : ∃ s : Session ScoreBook, startingAt {} levels Table.empty 1 = .ok s :=
    (exists_startingAt_iff {} Table.empty).mpr (by decide)
  obtain ⟨s, opened⟩ := opens
  exact ⟨s, opened, play_progress opened keys⟩

end Session
end GridRunner
