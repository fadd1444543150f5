import GridRunner.Session
import GridRunner.Proofs.Game.Run

/-! # Checking a list of levels

One game tries every level in turn.  What it has met before never decides about a level: a
level is refused for the fault of its own map, or not at all.
-/

namespace GridRunner

namespace Session

/-- The place of a level is the first one whose map cannot be played, and the fault its own. -/
def FirstFault (rules : Rules) (levels : List Level) (place : Nat) (fault : Level.Fault) : Prop :=
  ∃ level, levels[place]? = some level ∧ level.layout rules = .error fault ∧
    ∀ i < place, ∀ earlier, levels[i]? = some earlier → earlier.map.Playable

theorem probe?_eq_none_iff {g : Game} {place : Nat} {levels : List Level} :
    probe? g place levels = none ↔ ∀ level ∈ levels, level.map.Playable := by
  induction levels generalizing g place with
  | nil => simp [probe?]
  | cons first rest ih =>
    rw [probe?, List.forall_mem_cons]
    cases loaded : g.load first with
    | error fault =>
      have refused := Level.not_playable_of_fault (Game.load_eq_error_iff.mp loaded)
      simp [refused]
    | ok after =>
      have playable : first.map.Playable := Game.exists_load_iff.mp ⟨after, loaded⟩
      rw [ih]
      simp [playable]

theorem probe?_eq_some {g : Game} {start place : Nat} {levels : List Level} {fault : Level.Fault}
    (h : probe? g start levels = some (place, fault)) :
    ∃ i, place = start + i ∧ FirstFault g.rules levels i fault := by
  induction levels generalizing g start with
  | nil => cases h
  | cons first rest ih =>
    rw [probe?] at h
    cases loaded : g.load first with
    | error found =>
      rw [loaded, Option.some.injEq, Prod.mk.injEq] at h
      obtain ⟨rfl, rfl⟩ := h
      have own : first.layout g.rules = .error found := Game.load_eq_error_iff.mp loaded
      exact ⟨0, rfl, first, rfl, own, by simp⟩
    | ok after =>
      rw [loaded] at h
      obtain ⟨i, rfl, level, here, own, before⟩ := ih h
      rw [Game.load_rules loaded] at own
      refine ⟨i + 1, by omega, level, here, own, ?_⟩
      intro j hj earlier hearlier
      cases j with
      | zero =>
        obtain rfl : first = earlier := by simpa using hearlier
        exact Game.exists_load_iff.mp ⟨after, loaded⟩
      | succ j => exact before j (by omega) earlier hearlier

/-- A list has at most one first fault. -/
theorem FirstFault.unique {rules : Rules} {levels : List Level} {i j : Nat} {a b : Level.Fault}
    (hi : FirstFault rules levels i a) (hj : FirstFault rules levels j b) : i = j ∧ a = b := by
  obtain ⟨first, hfirst, faultFirst, beforeFirst⟩ := hi
  obtain ⟨second, hsecond, faultSecond, beforeSecond⟩ := hj
  have same : i = j := by
    rcases Nat.lt_trichotomy i j with less | same | more
    · exact absurd (beforeSecond i less first hfirst) (Level.not_playable_of_fault faultFirst)
    · exact same
    · exact absurd (beforeFirst j more second hsecond) (Level.not_playable_of_fault faultSecond)
  subst same
  rw [hfirst, Option.some.injEq] at hsecond
  subst hsecond
  rw [faultFirst, Except.error.injEq] at faultSecond
  exact ⟨rfl, faultSecond⟩

theorem FirstFault.unplayable {rules : Rules} {levels : List Level} {place : Nat}
    {fault : Level.Fault} (h : FirstFault rules levels place fault) :
    ∃ level ∈ levels, ¬ level.map.Playable := by
  obtain ⟨level, here, own, -⟩ := h
  exact ⟨level, List.mem_of_getElem? here, Level.not_playable_of_fault own⟩

section StartingAt

variable {σ : Type} (rules : Rules) {levels : List Level} (scores : σ) {index : Nat}

theorem startingAt_nil (index : Nat) :
    startingAt rules [] scores index = .error .noLevels := rfl

theorem startingAt_of_length_le (nonempty : levels ≠ []) (outside : levels.length ≤ index) :
    startingAt rules levels scores index =
      .error (.startOutOfRange index levels.length) := by
  have filled : ¬ levels.isEmpty = true := by simpa using nonempty
  rw [startingAt, if_neg filled, List.drop_eq_nil_of_le outside]

theorem startingAt_of_unplayable (inside : index < levels.length)
    (unplayable : ∃ level ∈ levels, ¬ level.map.Playable) :
    ∃ place fault, FirstFault rules levels place fault ∧
      startingAt rules levels scores index = .error (.invalidLevel place fault) := by
  have filled : ¬ levels.isEmpty = true := by
    rw [List.isEmpty_iff_length_eq_zero]
    omega
  cases found : probe? (.start rules) 0 levels with
  | none =>
    obtain ⟨level, member, refused⟩ := unplayable
    exact absurd (probe?_eq_none_iff.mp found level member) refused
  | some result =>
    obtain ⟨place, fault⟩ := result
    obtain ⟨i, hi, first⟩ := probe?_eq_some found
    rw [Nat.zero_add] at hi
    subst hi
    refine ⟨place, fault, first, ?_⟩
    rw [startingAt, if_neg filled, List.drop_eq_getElem_cons inside, found]

theorem startingAt_of_playable (inside : index < levels.length)
    (playable : ∀ level ∈ levels, level.map.Playable) :
    ∃ game, (Game.start rules).load levels[index] = .ok game ∧
      startingAt rules levels scores index =
        .ok { past := (levels.take index).reverse
              current := levels[index]
              ahead := levels.drop (index + 1)
              console := { game }
              scores } := by
  have filled : ¬ levels.isEmpty = true := by
    rw [List.isEmpty_iff_length_eq_zero]
    omega
  have accepted : ∃ game, (Game.start rules).load levels[index] = .ok game :=
    Game.exists_load_iff.mpr (playable _ (List.getElem_mem inside))
  obtain ⟨game, loaded⟩ := accepted
  refine ⟨game, loaded, ?_⟩
  rw [startingAt, if_neg filled, List.drop_eq_getElem_cons inside,
    probe?_eq_none_iff.mpr playable]
  simp only [loaded]

/-- A session begins only with a list that passed, at a place inside it. -/
theorem startingAt_eq_ok {s : Session σ} (h : startingAt rules levels scores index = .ok s) :
    (∀ level ∈ levels, level.map.Playable) ∧ ∃ inside : index < levels.length, ∃ game,
      (Game.start rules).load levels[index] = .ok game ∧
      s = { past := (levels.take index).reverse
            current := levels[index]
            ahead := levels.drop (index + 1)
            console := { game }
            scores } := by
  by_cases inside : index < levels.length
  · by_cases playable : ∀ level ∈ levels, level.map.Playable
    · obtain ⟨game, loaded, started⟩ := startingAt_of_playable rules scores inside playable
      rw [h, Except.ok.injEq] at started
      exact ⟨playable, inside, game, loaded, started⟩
    · have unplayable : ∃ level ∈ levels, ¬ level.map.Playable := by simpa using playable
      obtain ⟨place, fault, -, refused⟩ := startingAt_of_unplayable rules scores inside unplayable
      rw [h] at refused
      cases refused
  · by_cases nonempty : levels = []
    · subst nonempty
      rw [startingAt_nil] at h
      cases h
    · rw [startingAt_of_length_le rules scores nonempty (by omega)] at h
      cases h

theorem exists_startingAt_iff :
    (∃ s, startingAt rules levels scores index = .ok s) ↔
      levels ≠ [] ∧ index < levels.length ∧ ∀ level ∈ levels, level.map.Playable := by
  constructor
  · intro h
    obtain ⟨s, started⟩ := h
    obtain ⟨playable, inside, -⟩ := startingAt_eq_ok rules scores started
    exact ⟨List.ne_nil_of_length_pos (by omega), inside, playable⟩
  · intro h
    obtain ⟨-, inside, playable⟩ := h
    obtain ⟨game, -, started⟩ := startingAt_of_playable rules scores inside playable
    exact ⟨_, started⟩

/-- A session of which something has been computed was opened. -/
theorem exists_startingAt_of_map {α : Type} {f : Session σ → α} {a : α}
    (h : (startingAt rules levels scores index).toOption.map f = some a) :
    ∃ s, startingAt rules levels scores index = .ok s ∧ f s = a := by
  cases started : startingAt rules levels scores index with
  | error e =>
    rw [started] at h
    cases h
  | ok s =>
    rw [started] at h
    exact ⟨s, rfl, Option.some.inj h⟩

/-- By rules that leave room for the log a session starts as it does by their sheet. -/
theorem ofSheet?_toRuleSheet (index : Nat) :
    ofSheet? rules.toRuleSheet levels scores index =
      some (startingAt rules levels scores index) := by
  unfold ofSheet?
  by_cases empty : levels = []
  · subst empty
    rfl
  rw [if_neg (by simpa using empty)]
  by_cases outside : levels.length ≤ index
  · rw [if_pos outside, startingAt_of_length_le rules scores empty outside]
  · rw [if_neg outside, RuleSheet.rules?_toRuleSheet]
    rfl

end StartingAt

end Session
end GridRunner
