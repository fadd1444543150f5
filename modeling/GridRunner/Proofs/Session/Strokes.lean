import GridRunner.Proofs.Console.Strokes
import GridRunner.Proofs.Score.Store
import GridRunner.Proofs.Session.Clearing

/-! # Keystrokes of a session

Each level is read and counted as from a fresh console, whatever was played before.  A level cannot
be cleared without a command, so no run is recorded with zero keystrokes, and a score file that a
session has played over can be opened again.
-/

namespace GridRunner
namespace Session

variable {σ : Type} [ScoreStore σ]

/-! ## The keys of a level -/

/-- The keys typed on the level in play after one more key, from those typed on it before.  A key
that enters a level is not among the keys of that level, and the last level gets no more keys once
it is cleared. -/
def typedAfter (s : Session σ) (typed : List Key) (key : Key) : List Key :=
  if s.finished then typed
  else if (s.press key).2.index = s.index then typed ++ [key]
  else []

def onLevel (s : Session σ) (typed : List Key) : List Key → List Key
  | [] => typed
  | key :: rest => (s.press key).2.onLevel (s.typedAfter typed key) rest

theorem length_typedAfter_le (s : Session σ) (typed : List Key) (key : Key) :
    (s.typedAfter typed key).length ≤ typed.length + 1 := by
  unfold typedAfter
  split
  · omega
  · split
    · simp
    · simp

theorem length_onLevel_le (s : Session σ) (typed keys : List Key) :
    (s.onLevel typed keys).length ≤ typed.length + keys.length := by
  induction keys generalizing s typed with
  | nil => exact Nat.le_refl _
  | cons key rest ih =>
    have now := s.length_typedAfter_le typed key
    have later := ih (s.press key).2 (s.typedAfter typed key)
    rw [onLevel, List.length_cons]
    omega

/-! ## Counting -/

/-- The session has counted the actions told by the keys typed on the level in play, and while it is
not finished reads on from there. -/
structure Metered (jump : Int32) (typed : List Key) (s : Session σ) : Prop where
  strokes : s.game.world.keystrokes = capped (Chord.told jump typed).length
  reading : s.finished = false → s.console.Counted jump typed

omit [ScoreStore σ] in
theorem metered_startingAt {rules : Rules} {levels : List Level} {scores : σ} {index : Nat}
    {s : Session σ} (opened : startingAt rules levels scores index = .ok s) :
    Metered rules.wordJump [] s := by
  obtain ⟨-, inside, game, loaded, rfl⟩ := startingAt_eq_ok rules scores opened
  have counted := Console.counted_load loaded
  exact ⟨counted.strokes, fun _ => counted⟩

section Metered

variable {s : Session σ} {jump : Int32} {typed : List Key}

theorem Metered.press (h : s.OnCourse) (metered : Metered jump typed s) (key : Key) :
    Metered jump (s.typedAfter typed key) (s.press key).2 := by
  -- A key that enters the next level starts a new count; any other is one more key of this level.
  obtain ⟨finished, pressed⟩ | ⟨unfinished, going, pressed⟩ | ⟨unfinished, done, last, pressed⟩ |
    ⟨unfinished, done, level, ahead, game, next, loaded, pressed⟩ := press_cases h key
  · rw [typedAfter, if_pos finished, pressed]
    exact metered
  · have counted := (metered.reading unfinished).press key
    have typed' : s.typedAfter typed key = typed ++ [key] := by
      simp [typedAfter, unfinished, pressed, index]
    rw [typed', pressed]
    exact ⟨counted.strokes, fun _ => counted⟩
  · have counted := (metered.reading unfinished).press key
    have typed' : s.typedAfter typed key = typed ++ [key] := by
      simp [typedAfter, unfinished, pressed, index]
    rw [typed', pressed]
    exact ⟨counted.strokes, fun more => by cases more⟩
  · have typed' : s.typedAfter typed key = [] := by
      simp [typedAfter, unfinished, pressed, index]
    have counted := Console.counted_load loaded
    have rules : (s.console.press key).2.game.rules.wordJump = jump := by
      rw [Console.press_rules, (metered.reading unfinished).wordJump]
    rw [rules] at counted
    rw [typed', pressed]
    exact ⟨counted.strokes, fun _ => counted⟩

theorem Metered.play (h : s.OnCourse) (metered : Metered jump typed s) (keys : List Key) :
    Metered jump (s.onLevel typed keys) (s.play keys).2 := by
  induction keys generalizing s typed with
  | nil => exact metered
  | cons key rest ih => exact ih (h.press key) (metered.press h key)

/-- What a summary reports is the count of the keys typed on its level, which told some action. -/
theorem Metered.keystrokes (h : s.OnCourse) (metered : Metered jump typed s) {key : Key}
    {summary : Summary} (cleared : cleared? (s.press key).1 = some summary) :
    summary.keystrokes = capped (Chord.told jump (typed ++ [key])).length ∧
      0 < summary.keystrokes := by
  obtain ⟨unfinished, complete, rfl, -⟩ := cleared?_eq_some h cleared
  have reading := metered.reading unfinished
  have incomplete : s.console.game.world.complete = false := h.complete.trans unfinished
  have strokes : (s.summaryAfter key).1.keystrokes =
      capped (Chord.told jump (typed ++ [key])).length := (reading.press key).strokes
  have told := List.length_pos_of_ne_nil (reading.told_ne_nil incomplete complete)
  rw [strokes]
  exact ⟨rfl, Nat.lt_min.mpr ⟨told, by decide⟩⟩

/-- A run is never recorded with zero keystrokes: what every other record keeps of the scores, a
whole session keeps. -/
theorem Metered.scores_play {P : σ → Prop} (h : s.OnCourse) (metered : Metered jump typed s)
    (records : ∀ level ∈ s.levels, ∀ strokes scores, 0 < strokes → strokes ≤ countLimit →
      P scores → P (ScoreStore.record level.number strokes scores).2)
    (reads : ∀ level scores, P scores → P (ScoreStore.best level scores).2)
    (begun : P s.scores) (keys : List Key) : P (s.play keys).2.scores := by
  induction keys generalizing s typed with
  | nil => exact begun
  | cons key rest ih =>
    -- Only a key that clears the level consults the store, and then some action was counted.
    have next : P (s.press key).2.scores := by
      obtain ⟨-, kept⟩ | ⟨-, -, cleared, kept⟩ := cleared?_press h key
      · rw [kept]
        exact begun
      · obtain ⟨strokes, positive⟩ := metered.keystrokes h cleared
        have few : (s.summaryAfter key).1.keystrokes ≤ countLimit :=
          Nat.le_trans (Nat.le_of_eq strokes) (Nat.min_le_right _ _)
        have listed : s.current ∈ s.levels := by simp [levels]
        rw [kept]
        exact reads _ _ (records s.current listed _ s.scores positive few begun)
    exact ih (h.press key) (metered.press h key) (press_levels h key ▸ records) next

end Metered

/-! ## Whole sessions -/

/-- How a session counts after some keys.  The count is exact as long as it fits 32 bits. -/
structure Counts (jump : Int32) (s : Session σ) (keys : List Key) : Prop where
  /-- The keys typed on the level in play are read as by a new chord in normal mode. -/
  reading : (s.play keys).2.finished = false →
    (s.play keys).2.game.world.mode = (Chord.reached jump (s.onLevel [] keys)).1 ∧
      (s.play keys).2.console.chord = (Chord.reached jump (s.onLevel [] keys)).2
  strokes : keys.length ≤ countLimit →
    (s.play keys).2.game.world.keystrokes = (Chord.told jump (s.onLevel [] keys)).length
  /-- A key that clears the level reports the count of the keys typed on it, itself included. -/
  summary : ∀ key summary, cleared? ((s.play keys).2.press key).1 = some summary →
    (keys.length + 1 ≤ countLimit →
      summary.keystrokes = (Chord.told jump (s.onLevel [] keys ++ [key])).length) ∧
    0 < summary.keystrokes ∧ summary.keystrokes ≤ (s.onLevel [] keys ++ [key]).length
  /-- No run is recorded with zero keystrokes: what all other records keep is kept. -/
  records : ∀ P : σ → Prop,
    (∀ level strokes scores, 0 < strokes → P scores →
      P (ScoreStore.record level strokes scores).2) →
    (∀ level scores, P scores → P (ScoreStore.best level scores).2) →
    P s.scores → P (s.play keys).2.scores

theorem capped_of_le {n : Nat} (h : n ≤ countLimit) : capped n = n := Nat.min_eq_left h

theorem Metered.counts {s : Session σ} {jump : Int32} (h : s.OnCourse) (metered : Metered jump [] s)
    (keys : List Key) : s.Counts jump keys := by
  have course := h.play keys
  have later := metered.play h keys
  have typed := s.length_onLevel_le [] keys
  rw [List.length_nil, Nat.zero_add] at typed
  refine ⟨?_, ?_, ?_, ?_⟩
  · intro unfinished
    have counted := later.reading unfinished
    exact ⟨counted.mode, counted.chord⟩
  · intro few
    have told := Chord.length_told_le jump (s.onLevel [] keys)
    rw [later.strokes, capped_of_le (by omega)]
  · intro key summary cleared
    obtain ⟨strokes, positive⟩ := later.keystrokes course cleared
    have fewer := Chord.length_told_le jump (s.onLevel [] keys ++ [key])
    have length : (s.onLevel [] keys ++ [key]).length = (s.onLevel [] keys).length + 1 := by simp
    refine ⟨?_, positive, ?_⟩
    · intro few
      rw [strokes, capped_of_le (by omega)]
    · rw [strokes]
      exact Nat.le_trans (Nat.min_le_left _ _) fewer
  · intro P records reads begun
    exact metered.scores_play h
      (fun level _ strokes scores positive _ => records level.number strokes scores positive)
      reads begun keys

/-- A session counts the commands typed on each level, and clears none without one.  A score file
that could be opened can be opened after any session, and holds what the session kept. -/
theorem play_counts_commands (rules : Rules) (levels : List Level) (index : Nat) :
    (∀ (σ : Type) [ScoreStore σ] (scores : σ) (s : Session σ),
      startingAt rules levels scores index = .ok s → ∀ keys, s.Counts rules.wordJump keys) ∧
    (∀ typed key, (Chord.told rules.wordJump (typed ++ [key])).length =
      (Chord.told rules.wordJump typed).length +
        if (Chord.reached rules.wordJump typed).2.Commands
            (Chord.reached rules.wordJump typed).1 key
          then 1 else 0) ∧
    ((∀ level ∈ levels, level.number ≤ countLimit) →
      ∀ (disk : Disk) (file : ScoreFile) (s : Session ScoreFile), ScoreFile.ofDisk disk = .ok file →
        startingAt rules levels file index = .ok s → ∀ keys,
          ScoreFile.ofDisk (s.play keys).2.scores.disk = .ok (s.play keys).2.scores) := by
  refine ⟨?_, Chord.length_told_concat rules.wordJump, ?_⟩
  · intro σ _ scores s opened keys
    exact (metered_startingAt opened).counts (onCourse_startingAt opened).1 keys
  · intro small disk file s read opened keys
    obtain ⟨course, -, -, listed, -⟩ := onCourse_startingAt opened
    have begun : s.scores.Saved := by
      rw [startingAt_scores opened]
      exact ScoreFile.saved_of_ofDisk read
    have records : ∀ level ∈ s.levels, ∀ strokes (scores : ScoreFile), 0 < strokes →
        strokes ≤ countLimit → scores.Saved →
          (ScoreStore.record level.number strokes scores).2.Saved := by
      intro level member strokes scores positive few saved
      exact saved.recordWith none (small level (listed ▸ member)) positive few
    exact (metered_startingAt opened).scores_play course records (fun _ _ saved => saved) begun keys

/-- A session over the score file of an earlier one, which holds `"7":1` in braces. -/
theorem play_counts_commands_over_file :
    let corridor := fun number : Nat =>
      ({ number, name := "Corridor", instructions := "",
         map := .ofRows ["@..>"], par := 1 } : Level)
    let levels := [corridor 7, corridor 8]
    let disk : Disk := { scores := .file [0x7b, 0x22, 0x37, 0x22, 0x3a, 0x31, 0x7d] }
    let keys : List Key :=
      [.char '3', .char 'd', .escape, .char 'v', .char '2', .char 'l', .char '$', .char ':', .enter,
       .char '$']
    ∃ (file : ScoreFile) (s : Session ScoreFile), ScoreFile.ofDisk disk = .ok file ∧
      startingAt {} levels file 0 = .ok s ∧ s.Counts ({} : Rules).wordJump keys ∧
      (Chord.told ({} : Rules).wordJump (keys.take 7)).length =
        (Chord.told ({} : Rules).wordJump (keys.take 6)).length + 1 ∧
      ScoreFile.ofDisk (s.play keys).2.scores.disk = .ok (s.play keys).2.scores := by
  intro corridor levels disk keys
  let file : ScoreFile := { book := Table.empty.insert 7 1, disk }
  have read : ScoreFile.ofDisk disk = .ok file := by decide +kernel
  have opens : ∃ s : Session ScoreFile, startingAt {} levels file 0 = .ok s :=
    (exists_startingAt_iff {} file).mpr (by decide)
  obtain ⟨s, opened⟩ := opens
  obtain ⟨counts, told, again⟩ := play_counts_commands {} levels 0
  exact ⟨file, s, read, opened, counts ScoreFile file s opened keys,
    told (keys.take 6) (.char '$'), again (by decide) disk file s read opened keys⟩

end Session
end GridRunner
