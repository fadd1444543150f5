import GridRunner.Launch
import GridRunner.Proofs.Session.Validation
import GridRunner.Startup
import Mathlib.Data.List.Nodup

/-! # The level a run starts from

The level asked for is taken for a place in the list, and its number is not looked at.  So a run
starts from the level with that number exactly if the level stands at the place of its number
(`start_number_iff`).  A list may hold its levels in any order and leave numbers out.
-/

namespace GridRunner

namespace Level

theorem duplicate?_eq_none_iff {seen : List Nat} {levels : List Level} :
    duplicate? seen levels = none ↔
      (levels.map number).Nodup ∧ ∀ level ∈ levels, level.number ∉ seen := by
  induction levels generalizing seen with
  | nil => simp [duplicate?]
  | cons first rest ih =>
    rw [duplicate?, List.map_cons, List.nodup_cons, List.forall_mem_cons]
    by_cases known : first.number ∈ seen
    · simp [known]
    · rw [if_neg (by simpa using known), ih]
      simp only [List.mem_cons, not_or, List.mem_map, not_exists, not_and]
      constructor
      · rintro ⟨distinct, apart⟩
        exact ⟨⟨fun level member => (apart level member).1, distinct⟩, known,
          fun level member => (apart level member).2⟩
      · rintro ⟨⟨apart, distinct⟩, -, unseen⟩
        exact ⟨distinct, fun level member => ⟨apart level member, unseen level member⟩⟩

theorem checkList_eq_ok_iff {levels checked : List Level} :
    checkList levels = .ok checked ↔
      checked = levels ∧ levels ≠ [] ∧ (levels.map number).Nodup := by
  unfold checkList
  by_cases empty : levels = []
  · simp [empty]
  rw [if_neg (by simpa using empty)]
  have distinct : duplicate? [] levels = none ↔
      (levels.map Level.number).Nodup ∧ ∀ level ∈ levels, level.number ∉ [] :=
    duplicate?_eq_none_iff
  cases found : duplicate? [] levels with
  | none =>
    have nodup := (distinct.mp found).1
    simp [empty, nodup, eq_comm]
  | some number =>
    have repeats : ¬ (levels.map Level.number).Nodup := by
      intro nodup
      rw [found] at distinct
      cases distinct.mpr ⟨nodup, by simp⟩
    simp [repeats]

end Level

theorem Launch.startIndex_of_startLevel {l : Launch} {k : Nat}
    (asked : l.startLevel = some (k + 1)) : l.startIndex = k := by
  rw [startIndex, asked]
  rfl

namespace Session

variable {σ : Type}

/-- A session starts from the level with a number exactly if that level stands at its place. -/
theorem exists_startingAt_number_iff (rules : Rules) {levels : List Level}
    (distinct : (levels.map Level.number).Nodup)
    (playable : ∀ level ∈ levels, level.map.Playable) (scores : σ) {level : Level}
    (listed : level ∈ levels) (k : Nat) :
    (∃ s, startingAt rules levels scores k = .ok s ∧ s.current.number = level.number) ↔
      levels[k]? = some level := by
  constructor
  · rintro ⟨s, started, same⟩
    obtain ⟨-, inside, game, -, rfl⟩ := startingAt_eq_ok rules scores started
    have met : levels[k] = level :=
      List.inj_on_of_nodup_map distinct (List.getElem_mem inside) listed same
    rw [List.getElem?_eq_getElem inside, met]
  · intro here
    obtain ⟨inside, met⟩ := List.getElem?_eq_some_iff.mp here
    obtain ⟨game, -, started⟩ := startingAt_of_playable rules scores inside playable
    exact ⟨_, started, congrArg Level.number met⟩

end Session

namespace Startup

/-- Once the levels and the preferences are read, a run starts as its session does. -/
theorem start_eq {s : Startup} {rules : Rules} {levels : List Level} {preferences : Preferences}
    (content : s.loadContent = .ok (rules.toRuleSheet, levels))
    (preferred : s.loadPreferences = .ok preferences) (size : Screen.Size) :
    s.start size =
      match Session.startingAt rules levels s.openScores s.startIndex with
      | .ok session => some (.ok (.start session preferences size))
      | .error error => some (.error (.session error)) := by
  rw [start, content, preferred]
  dsimp only
  rw [Session.ofSheet?_toRuleSheet]
  cases Session.startingAt rules levels s.openScores s.startIndex <;> rfl

theorem exists_start_iff {s : Startup} {rules : Rules} {levels : List Level}
    {preferences : Preferences} (content : s.loadContent = .ok (rules.toRuleSheet, levels))
    (preferred : s.loadPreferences = .ok preferences) (size : Screen.Size) (n : Nat) :
    (∃ c, s.start size = some (.ok c) ∧ c.session.current.number = n) ↔
      ∃ session, Session.startingAt rules levels s.openScores s.startIndex = .ok session ∧
        session.current.number = n := by
  rw [start_eq content preferred]
  cases Session.startingAt rules levels s.openScores s.startIndex with
  | error error => simp
  | ok session =>
    simp only [Option.some.injEq, Except.ok.injEq, exists_eq_left']
    exact Iff.rfl

/-- Whatever list is accepted, and whichever of its numbers is asked for, a run starts from the
level of that number exactly if the level stands at the place of its number.  If another level
stands there the run starts from that, and if none does it does not start. -/
theorem start_number_iff {σ : Type} (rules : Rules) {levels : List Level}
    (accepted : Level.checkList levels = .ok levels)
    (playable : ∀ level ∈ levels, level.map.Playable) (scores : σ) {l : Launch} {k : Nat}
    (asked : l.startLevel = some (k + 1)) {level : Level} (listed : level ∈ levels)
    (numbered : level.number = k + 1) :
    ((∃ s, Session.startingAt rules levels scores l.startIndex = .ok s ∧
      s.current.number = k + 1) ↔ levels[k]? = some level) ∧
    (∀ other, levels[k]? = some other →
      ∃ s, Session.startingAt rules levels scores l.startIndex = .ok s ∧ s.current = other) ∧
    (levels[k]? = none → Session.startingAt rules levels scores l.startIndex =
      .error (.startOutOfRange k levels.length)) ∧
    ∀ (s : Startup) (preferences : Preferences) (size : Screen.Size),
      s.loadContent = .ok (rules.toRuleSheet, levels) → s.loadPreferences = .ok preferences →
      s.startIndex = l.startIndex →
      ((∃ c, s.start size = some (.ok c) ∧ c.session.current.number = k + 1) ↔
        levels[k]? = some level) := by
  obtain ⟨-, nonempty, distinct⟩ := Level.checkList_eq_ok_iff.mp accepted
  rw [l.startIndex_of_startLevel asked, ← numbered]
  refine ⟨Session.exists_startingAt_number_iff rules distinct playable scores listed k, ?_, ?_, ?_⟩
  · intro other here
    obtain ⟨inside, met⟩ := List.getElem?_eq_some_iff.mp here
    obtain ⟨game, -, started⟩ := Session.startingAt_of_playable rules scores inside playable
    exact ⟨_, started, met⟩
  · intro missing
    exact Session.startingAt_of_length_le rules scores nonempty
      (List.getElem?_eq_none_iff.mp missing)
  · intro s preferences size content preferred place
    rw [exists_start_iff content preferred, place]
    exact Session.exists_startingAt_number_iff rules distinct playable s.openScores listed k

/-- Of a list with the numbers 7, 2 and 9 only the level with the number 2 can be started from by
its number. -/
theorem start_number_iff_gaps :
    let level (number : Nat) : Level :=
      { number, name := "", instructions := "", map := .ofRows ["@>"] }
    let levels := [level 7, level 2, level 9]
    let asking (number : String) : Launch :=
      .ofEnvironment { values := .ofList [("VIMRUNNER_START_LEVEL", number)] }
    Level.checkList levels = .ok levels ∧ (∀ level ∈ levels, level.map.Playable) ∧
      (asking "2").startLevel = some 2 ∧ (asking "7").startLevel = some 7 ∧
      (∃ s, Session.startingAt {} levels () (asking "2").startIndex = .ok s ∧
        s.current.number = 2) ∧
      Session.startingAt {} levels () (asking "7").startIndex =
        .error (.startOutOfRange 6 3) := by
  intro level levels asking
  have accepted : Level.checkList levels = .ok levels := by decide +kernel
  have playable : ∀ level ∈ levels, level.map.Playable := by decide +kernel
  have second : (asking "2").startLevel = some 2 := by decide +kernel
  have first : (asking "7").startLevel = some 7 := by decide +kernel
  have listed : level 7 ∈ levels ∧ level 2 ∈ levels := by simp [levels]
  have starts := (start_number_iff {} accepted playable () second listed.2 rfl).1
  have refused := (start_number_iff {} accepted playable () first listed.1 rfl).2.2.1
  exact ⟨accepted, playable, second, first, starts.mpr rfl, refused rfl⟩

/-- The level with the number 2 comes first, and asking for it starts the one behind it. -/
theorem other_number_started :
    let level (number : Nat) : Level :=
      { number, name := "", instructions := "", map := .ofRows ["@>"] }
    let levels := [level 2, level 1]
    let asking : Launch := .ofEnvironment { values := .ofList [("VIMRUNNER_START_LEVEL", "2")] }
    Level.checkList levels = .ok levels ∧ (∀ level ∈ levels, level.map.Playable) ∧
      asking.startLevel = some 2 ∧ levels.map Level.number = [2, 1] ∧
      (Session.startingAt {} levels () asking.startIndex).toOption.map (·.current.number) =
        some 1 := by
  decide +kernel

end Startup
end GridRunner
