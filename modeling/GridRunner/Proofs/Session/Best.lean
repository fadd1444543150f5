import GridRunner.Proofs.Score.Store
import GridRunner.Proofs.Session.Clearing

/-! # The best scores of a session

Over a store that answers, each run is recorded under the level it cleared and under no other.  So
at any time the best of a level number is the least of what the store held at first and of the runs
summed up since, and a summary compares its run with what the store held just before.
-/

namespace GridRunner
namespace Session

variable {σ : Type} [ScoreStore σ] {book : σ → ScoreBook} {sound : σ → Prop}

/-- The keystrokes of the runs that cleared a level of that number. -/
def runsOf (n : Nat) (cleared : List Summary) : List Nat :=
  (cleared.filter (·.level = n)).map Summary.keystrokes

theorem runsOf_append (n : Nat) (first later : List Summary) :
    runsOf n (first ++ later) = runsOf n first ++ runsOf n later := by
  rw [runsOf, List.filter_append, List.map_append]
  rfl

/-! ## One record -/

section Summarize

variable (faithful : ScoreStore.Faithful σ book sound) {scores : σ} (level : Level) (strokes : Nat)

include faithful

theorem summarize_snd (h : sound scores) :
    (summarize level strokes scores).2 = (ScoreStore.record level.number strokes scores).2 := by
  have read := faithful.best level.number _ (faithful.record_sound level.number strokes scores h)
  exact congrArg Prod.snd read

theorem summarize_best (h : sound scores) :
    (summarize level strokes scores).1.best =
      (((book scores).get? level.number).toList ++ [strokes]).min? := by
  have read := faithful.best level.number _ (faithful.record_sound level.number strokes scores h)
  rw [faithful.record_book level.number strokes scores h, ScoreBook.get?_record, if_pos rfl] at read
  rw [best_summarize, read]
  rfl

theorem summarize_improved (h : sound scores) :
    (summarize level strokes scores).1.improved =
      ScoreBook.improves ((book scores).get? level.number) strokes := by
  have answer := faithful.record_ok level.number strokes scores h
  rw [ScoreBook.record_fst] at answer
  rw [improved_summarize, answer]
  rfl

/-- What a summary says of the run that cleared a level, given the best there was before it. -/
structure Reports (level : Level) (before : Option Nat) (summary : Summary) : Prop where
  heading : summary.heading = level.heading
  rating : summary.rating = .grade summary.keystrokes level.par
  best : summary.best = (before.toList ++ [summary.keystrokes]).min?
  improved : summary.improved = true ↔ ∀ held, before = some held → summary.keystrokes < held

theorem reports_summarize (h : sound scores) :
    Reports level ((book scores).get? level.number) (summarize level strokes scores).1 where
  heading := rfl
  rating := rfl
  best := summarize_best faithful level strokes h
  improved := by
    rw [summarize_improved faithful level strokes h]
    exact ScoreBook.improves_iff

end Summarize

/-! ## Runs of keys -/

section Play

variable (faithful : ScoreStore.Faithful σ book sound) {s : Session σ}

include faithful

theorem press_sound (course : s.OnCourse) (h : sound s.scores) (key : Key) :
    sound (s.press key).2.scores := by
  obtain ⟨-, kept⟩ | ⟨-, -, -, kept⟩ := cleared?_press course key
  · rw [kept]
    exact h
  · rw [kept, summaryAfter, summarize_snd faithful _ _ h]
    exact faithful.record_sound _ _ _ h

/-- A key lowers the best of the level it clears, if it clears one, to the run if that is less. -/
theorem press_best (course : s.OnCourse) (h : sound s.scores) (key : Key) (n : Nat) :
    (book (s.press key).2.scores).get? n =
      (((book s.scores).get? n).toList ++ runsOf n (cleared? (s.press key).1).toList).min? := by
  obtain ⟨uncleared, kept⟩ | ⟨-, -, cleared, kept⟩ := cleared?_press course key
  · rw [uncleared, kept]
    cases (book s.scores).get? n <;> rfl
  · rw [cleared, kept, summaryAfter, summarize_snd faithful _ _ h, faithful.record_book _ _ _ h,
      ScoreBook.get?_record]
    by_cases same : n = s.current.number
    · subst same
      simp [runsOf, summarize]
    · have other : s.current.number ≠ n := Ne.symm same
      rw [if_neg same]
      cases (book s.scores).get? n <;> simp [runsOf, summarize, other]

theorem play_best (course : s.OnCourse) (h : sound s.scores) (keys : List Key) :
    sound (s.play keys).2.scores ∧ ∀ n, (book (s.play keys).2.scores).get? n =
      (((book s.scores).get? n).toList ++ runsOf n (summaries (s.play keys).1)).min? := by
  induction keys generalizing s with
  | nil =>
    refine ⟨h, ?_⟩
    intro n
    show (book s.scores).get? n = _
    cases (book s.scores).get? n <;> rfl
  | cons key rest ih =>
    obtain ⟨kept, later⟩ := ih (course.press key) (press_sound faithful course h key)
    refine ⟨kept, ?_⟩
    intro n
    -- The least so far stands for all that it is the least of, so runs can be taken one by one.
    rw [play_cons, summaries_cons, runsOf_append, later n, press_best faithful course h key n,
      ScoreBook.min?_toList_append, List.append_assoc]

omit faithful in
/-- The level in play is the first that is not cleared yet. -/
theorem exists_level_in_play (course : s.OnCourse) (keys : List Key)
    (unfinished : (s.play keys).2.finished = false) :
    ∃ level, s.remaining[(summaries (s.play keys).1).length]? = some level ∧
      level.heading = (s.play keys).2.current.heading := by
  have parts := play_remaining course keys
  have here : (s.play keys).2.remaining =
      (s.play keys).2.current :: (s.play keys).2.ahead := by simp [remaining, unfinished]
  have found : _ = (s.remaining.map Level.heading)[(summaries (s.play keys).1).length]? :=
    congrArg (·[(summaries (s.play keys).1).length]?) parts
  rw [here, List.map_cons, List.getElem?_append_right (by simp), List.length_map, Nat.sub_self,
    List.getElem?_cons_zero, List.getElem?_map] at found
  exact Option.map_eq_some_iff.mp found.symm

end Play

/-- What the scores and the summaries of a session say after some keys, for a session that began at
a place in a list of levels with some best scores. -/
structure Tallied (book : σ → ScoreBook) (held : ScoreBook) (levels : List Level) (start : Nat)
    (s : Session σ) (keys : List Key) : Prop where
  scores : ∀ n, (book (s.play keys).2.scores).get? n =
    ((held.get? n).toList ++ runsOf n (summaries (s.play keys).1)).min?
  /-- A key that clears a level reports on that level, the first one not cleared before. -/
  summary : ∀ key summary, cleared? ((s.play keys).2.press key).1 = some summary →
    ∃ level, levels[start + (summaries (s.play keys).1).length]? = some level ∧
      Reports level ((book (s.play keys).2.scores).get? level.number) summary

theorem tallied_startingAt (faithful : ScoreStore.Faithful σ book sound) {rules : Rules}
    {levels : List Level} {scores : σ} {start : Nat} {s : Session σ} (h : sound scores)
    (opened : startingAt rules levels scores start = .ok s) (keys : List Key) :
    Tallied book (book scores) levels start s keys := by
  obtain ⟨course, -, unfinished, -, parts⟩ := onCourse_startingAt opened
  have held := startingAt_scores opened
  rw [← held] at h
  obtain ⟨sound', best⟩ := play_best faithful course h keys
  refine ⟨?_, ?_⟩
  · rw [← held]
    exact best
  · intro key summary cleared
    obtain ⟨more, -, rfl, -⟩ := cleared?_eq_some (course.play keys) cleared
    obtain ⟨level, found, same⟩ := exists_level_in_play course keys more
    have begun : s.remaining = levels.drop start := by simp [remaining, unfinished, parts]
    have number : level.number = (s.play keys).2.current.number := congrArg (·.1) same
    have par : level.par = (s.play keys).2.current.par := congrArg (·.2.2) same
    have reports := reports_summarize faithful (s.play keys).2.current
      ((s.play keys).2.console.press key).2.game.world.keystrokes sound'
    rw [begun, List.getElem?_drop] at found
    refine ⟨level, found, reports.heading.trans same.symm, ?_, ?_, ?_⟩
    · rw [par]
      exact reports.rating
    · rw [number]
      exact reports.best
    · rw [number]
      exact reports.improved

/-- In memory with any scores to begin with, and on a disk that can be written, a session keeps for
every level number the least of its first best and of the runs it reports. -/
theorem play_keeps_best (rules : Rules) (levels : List Level) (start : Nat) :
    (∀ (seed : ScoreBook) (s : Session ScoreBook), startingAt rules levels seed start = .ok s →
      ∀ keys, Tallied id seed levels start s keys) ∧
    (∀ (file : ScoreFile) (s : Session ScoreFile), file.disk.Writable →
      startingAt rules levels file start = .ok s →
      ∀ keys, Tallied ScoreFile.book file.book levels start s keys) := by
  refine ⟨?_, ?_⟩
  · intro seed s opened keys
    exact tallied_startingAt ScoreBook.faithful trivial opened keys
  · intro file s writable opened keys
    exact tallied_startingAt ScoreFile.faithful writable opened keys

/-- Two levels of one number, which has a better score already, before one that has none. -/
theorem play_keeps_best_repeated :
    let corridor := fun number par : Nat =>
      ({ number, name := "Corridor", instructions := "", map := .ofRows ["@..>"], par } : Level)
    let levels := [corridor 8 1, corridor 8 2, corridor 9 3]
    let seed : ScoreBook := Table.empty.insert 8 2
    let file : ScoreFile := { book := seed, disk := { folder := .missing } }
    let keys : List Key :=
      [.char 'l', .char 'l', .char 'l', .char '2', .char 'l', .char '$', .char '$']
    ∃ (s : Session ScoreBook) (t : Session ScoreFile),
      startingAt {} levels seed 0 = .ok s ∧ startingAt {} levels file 0 = .ok t ∧
      file.disk.Writable ∧
      Tallied id seed levels 0 s keys ∧ Tallied ScoreFile.book file.book levels 0 t keys := by
  intro corridor levels seed file keys
  have writable : file.disk.Writable := ⟨by decide, by decide, by decide⟩
  have opens : ∃ s : Session ScoreBook, startingAt {} levels seed 0 = .ok s :=
    (exists_startingAt_iff {} seed).mpr (by decide)
  have opens' : ∃ t : Session ScoreFile, startingAt {} levels file 0 = .ok t :=
    (exists_startingAt_iff {} file).mpr (by decide)
  obtain ⟨s, opened⟩ := opens
  obtain ⟨t, opened'⟩ := opens'
  obtain ⟨memory, disk⟩ := play_keeps_best {} levels 0
  exact ⟨s, t, opened, opened', writable, memory seed s opened keys,
    disk file t writable opened' keys⟩

end Session
end GridRunner
