import GridRunner.Proofs.World.Endurance
import GridRunner.Proofs.World.Relog

/-! # Series of purges

The well-formed commands of a series of purges are blows on the bosses, front to back; the others
only tell that they are malformed.  Targets show in the log alone, and replacements nowhere
(`purges_exact`).
-/

namespace GridRunner

def Entity.isBoss (e : Entity) : Bool := e.kind = .boss

def Substitution.isCommand (command : String) : Bool := (ofCommand? command).isSome

namespace World

def purges (rules : Rules) : List String → World → List Purged × World
  | [], w => ([], w)
  | command :: rest, w =>
      let (answer, w) := w.purge rules command
      let (answers, w) := purges rules rest w
      (answer :: answers, w)

open Substitution (ofCommand? isCommand)

variable {rules : Rules} {w : World} {command : String}

/-! ## One purge -/

theorem purge_of_malformed (malformed : isCommand command = false) :
    w.purge rules command =
      (.invalidSyntax,
        w.note "Invalid syntax. Use s/target/replace/g to initiate regex attack.") := by
  have unread : ofCommand? command = none := by simpa [isCommand] using malformed
  rw [purge, unread]

theorem purge_of_no_boss (wellFormed : isCommand command = true)
    (nobody : ∀ e ∈ w.hostiles, e.isBoss = false) :
    w.purge rules command =
      (.noTarget, w.note "No eligible targets for regex attack in range.") := by
  obtain ⟨s, read⟩ := Option.isSome_iff_exists.mp wellFormed
  have missed := (Entity.hitFirst_eq_none_iff Entity.isBoss rules.purgeDamage w.hostiles).mpr nobody
  unfold Entity.isBoss at missed
  rw [purge, read]
  simp only [missed]

/-- A well-formed purge hits the first boss, if there is one. -/
theorem exists_hitFirst_of_purge (rules : Rules) (wellFormed : isCommand command = true)
    (boss : ¬ ∀ e ∈ w.hostiles, e.isBoss = false) :
    ∃ struck, Entity.hitFirst Entity.isBoss rules.purgeDamage w.hostiles =
        some (struck, (w.purge rules command).2.hostiles) ∧
      (w.purge rules command).1 = if struck.alive then .damaged struck.hp else .purged := by
  obtain ⟨s, read⟩ := Option.isSome_iff_exists.mp wellFormed
  rw [← Entity.hitFirst_eq_none_iff Entity.isBoss rules.purgeDamage, ← ne_eq,
    Option.ne_none_iff_exists'] at boss
  obtain ⟨⟨struck, hostiles⟩, hit⟩ := boss
  refine ⟨struck, ?_⟩
  rw [hit]
  unfold Entity.isBoss at hit
  rw [purge, read]
  simp only [hit]
  cases struck.alive with
  | true => exact ⟨rfl, rfl⟩
  | false => exact ⟨rfl, rfl⟩

theorem purge_invalidSyntax_iff :
    (w.purge rules command).1 = .invalidSyntax ↔ isCommand command = false := by
  cases wellFormed : isCommand command with
  | false => simp [purge_of_malformed wellFormed]
  | true =>
    by_cases nobody : ∀ e ∈ w.hostiles, e.isBoss = false
    · simp [purge_of_no_boss wellFormed nobody]
    · obtain ⟨struck, -, answer⟩ := exists_hitFirst_of_purge rules wellFormed nobody
      rw [answer]
      cases struck.alive <;> simp

theorem purge_noTarget_iff :
    (w.purge rules command).1 = .noTarget ↔
      isCommand command = true ∧ ∀ e ∈ w.hostiles, e.isBoss = false := by
  cases wellFormed : isCommand command with
  | false => simp [purge_of_malformed wellFormed]
  | true =>
    by_cases nobody : ∀ e ∈ w.hostiles, e.isBoss = false
    · simpa [purge_of_no_boss wellFormed nobody] using nobody
    · obtain ⟨struck, -, answer⟩ := exists_hitFirst_of_purge rules wellFormed nobody
      rw [answer]
      cases struck.alive <;> simp [nobody]

/-- A purge takes a boss away exactly if it says so. -/
theorem purge_length (rules : Rules) (command : String) (w : World) :
    w.hostiles.length = (w.purge rules command).2.hostiles.length +
      [(w.purge rules command).1].count .purged := by
  cases wellFormed : isCommand command with
  | false => simp [purge_of_malformed wellFormed, note]
  | true =>
    by_cases nobody : ∀ e ∈ w.hostiles, e.isBoss = false
    · simp [purge_of_no_boss wellFormed nobody, note]
    · obtain ⟨struck, hit, answer⟩ := exists_hitFirst_of_purge rules wellFormed nobody
      rw [Entity.hitFirst_length hit, answer]
      cases struck.alive <;> simp

/-! ## A series -/

theorem purges_append (rules : Rules) (before after : List String) (w : World) :
    w.purges rules (before ++ after) =
      ((w.purges rules before).1 ++ ((w.purges rules before).2.purges rules after).1,
        ((w.purges rules before).2.purges rules after).2) := by
  induction before generalizing w with
  | nil => rfl
  | cons command rest ih =>
    rw [List.cons_append, purges, purges]
    simp only [ih, List.cons_append]

theorem length_purges (rules : Rules) (commands : List String) (w : World) :
    (w.purges rules commands).1.length = commands.length := by
  induction commands generalizing w with
  | nil => rfl
  | cons command rest ih => exact congrArg (· + 1) (ih _)

theorem purges_eq (rules : Rules) (commands : List String) (w : World) :
    ∃ hostiles log, (w.purges rules commands).2 = { w with hostiles, log } := by
  induction commands generalizing w with
  | nil => exact ⟨w.hostiles, w.log, rfl⟩
  | cons command rest ih =>
    obtain ⟨hostiles, log, -, first⟩ := w.purge_eq rules command
    obtain ⟨hostiles', log', later⟩ := ih (w.purge rules command).2
    refine ⟨hostiles', log', later.trans ?_⟩
    rw [first]

theorem purges_lost (rules : Rules) (commands : List String) (w : World) :
    w.hostiles.length = (w.purges rules commands).2.hostiles.length +
      (w.purges rules commands).1.count .purged := by
  induction commands generalizing w with
  | nil => rfl
  | cons command rest ih =>
    rw [purge_length rules command w, ih (w.purge rules command).2, Nat.add_assoc,
      Nat.add_comm (List.count _ _) (List.count _ _), ← List.count_append]
    rfl

/-- Every well-formed command is a blow on the bosses as long as there are any. -/
theorem purges_blows (rules : Rules) (commands : List String) (w : World) :
    ∃ blows ≤ commands.countP isCommand,
      Blows Entity.isBoss rules.purgeDamage w.hostiles blows
        (w.purges rules commands).2.hostiles ∧
      (blows = commands.countP isCommand ∨
        ∀ e ∈ (w.purges rules commands).2.hostiles, e.isBoss = false) := by
  induction commands generalizing w with
  | nil => exact ⟨0, Nat.le_refl 0, .none _, .inl rfl⟩
  | cons command rest ih =>
    obtain ⟨blows, most, dealt, ends⟩ := ih (w.purge rules command).2
    cases wellFormed : isCommand command with
    | false =>
      have same : (w.purge rules command).2.hostiles = w.hostiles := by
        rw [purge_of_malformed wellFormed]
        rfl
      rw [same] at dealt
      rw [List.countP_cons_of_neg (by simp [wellFormed])]
      exact ⟨blows, most, dealt, ends⟩
    | true =>
      rw [List.countP_cons_of_pos wellFormed]
      by_cases nobody : ∀ e ∈ w.hostiles, e.isBoss = false
      · have same : (w.purge rules command).2.hostiles = w.hostiles := by
          rw [purge_of_no_boss wellFormed nobody]
          rfl
        rw [same] at dealt
        have kept := dealt.eq_of_cleared nobody
        refine ⟨0, Nat.zero_le _, ?_, .inr (kept ▸ nobody)⟩
        rw [purges, kept]
        exact .none _
      · obtain ⟨struck, hit, -⟩ := exists_hitFirst_of_purge rules wellFormed nobody
        exact ⟨blows + 1, Nat.succ_le_succ most, .of_hitFirst hit dealt,
          ends.imp_left (congrArg (· + 1))⟩

theorem purges_endures (rules : Rules) (commands : List String) (w : World) :
    ∃ blows, Endures Entity.isBoss rules.purgeDamage w.hostiles (commands.countP isCommand) blows
      ((w.purges rules commands).1.count .purged) (w.purges rules commands).2.hostiles := by
  obtain ⟨blows, most, dealt, ends⟩ := purges_blows rules commands w
  have endures := dealt.endures (fun _ _ => rfl) most ends
  rw [purges_lost rules commands w, Nat.add_sub_cancel_left] at endures
  exact ⟨blows, endures⟩

/-! ## What does not matter -/

theorem purge_congr {other : String}
    (same : (ofCommand? other).map (·.target) = (ofCommand? command).map (·.target)) :
    w.purge rules other = w.purge rules command := by
  unfold purge
  cases read : ofCommand? command with
  | none =>
    rw [read, Option.map_none, Option.map_eq_none_iff] at same
    rw [same]
  | some s =>
    rw [read, Option.map_some, Option.map_eq_some_iff] at same
    obtain ⟨s', read', target⟩ := same
    simp only [read', target]

theorem purges_congr {commands others : List String}
    (same : List.Forall₂ (fun command other =>
      (ofCommand? other).map (·.target) = (ofCommand? command).map (·.target)) commands others) :
    w.purges rules others = w.purges rules commands := by
  induction same generalizing w with
  | nil => rfl
  | cons first _ ih =>
    rw [purges, purges, purge_congr first]
    simp only [ih]

/-- Over another log, and with another target, a purge does the same but for the log. -/
theorem purge_relog (rules : Rules) (w : World) {other : String}
    (same : isCommand other = isCommand command) (log : MessageLog) :
    ∃ log', (w.relog log).purge rules other =
      ((w.purge rules command).1, (w.purge rules command).2.relog log') := by
  cases wellFormed : isCommand command with
  | false =>
    rw [purge_of_malformed wellFormed, purge_of_malformed (same.trans wellFormed)]
    exact ⟨_, rfl⟩
  | true =>
    obtain ⟨s, read⟩ := Option.isSome_iff_exists.mp wellFormed
    obtain ⟨s', read'⟩ := Option.isSome_iff_exists.mp (same.trans wellFormed)
    rw [purge, purge, read, read']
    dsimp only [relog]
    cases Entity.hitFirst (·.kind = .boss) rules.purgeDamage w.hostiles with
    | none => exact ⟨_, rfl⟩
    | some hit =>
      dsimp only
      cases hit.1.alive with
      | true => exact ⟨_, rfl⟩
      | false => exact ⟨_, rfl⟩

theorem purges_relog {commands others : List String}
    (same : List.Forall₂ (fun command other => isCommand other = isCommand command)
      commands others) (log : MessageLog) :
    ∃ log', (w.relog log).purges rules others =
      ((w.purges rules commands).1, (w.purges rules commands).2.relog log') := by
  induction same generalizing w log with
  | nil => exact ⟨log, rfl⟩
  | @cons command other _ _ first _ ih =>
    obtain ⟨next, answered⟩ := purge_relog rules w first log
    obtain ⟨last, rest⟩ := ih (w := (w.purge rules command).2) next
    refine ⟨last, ?_⟩
    rw [purges, answered]
    simp only [rest]
    rfl

/-- The bosses endure one blow for each well-formed command, front to back, and nothing else changes
but the log.  A malformed command changes the log alone; a well-formed one finds no target once the
bosses have had all they endure.  Series that agree in their targets do the same; those that agree
only in which commands are well-formed do the same but for the log. -/
theorem purges_exact (rules : Rules) (commands : List String) (w : World) :
    let answers := (w.purges rules commands).1
    let after := (w.purges rules commands).2
    (∃ blows, Endures Entity.isBoss rules.purgeDamage w.hostiles (commands.countP isCommand) blows
      (answers.count .purged) after.hostiles) ∧
    after = { w with hostiles := after.hostiles, log := after.log } ∧
    (∀ before command rest, commands = before ++ command :: rest →
      let here := (w.purges rules before).2
      let answer := (here.purge rules command).1
      let next := (here.purge rules command).2
      answers[before.length]? = some answer ∧
        (answer = .invalidSyntax ↔ isCommand command = false) ∧
        (isCommand command = false → next = here.relog next.log) ∧
        (answer = .noTarget ↔ isCommand command = true ∧
          stamina Entity.isBoss rules.purgeDamage w.hostiles ≤ before.countP isCommand)) ∧
    (∀ others, List.Forall₂ (fun command other =>
        (ofCommand? other).map (·.target) = (ofCommand? command).map (·.target)) commands others →
      w.purges rules others = (answers, after)) ∧
    ∀ others, List.Forall₂ (fun command other => isCommand other = isCommand command)
        commands others →
      ∃ log, w.purges rules others = (answers, after.relog log) := by
  refine ⟨purges_endures rules commands w, ?_, ?_, fun others => purges_congr,
    fun others same => purges_relog same w.log⟩
  · obtain ⟨hostiles, log, after⟩ := purges_eq rules commands w
    rw [after]
  · rintro before command rest rfl
    obtain ⟨blows, endures⟩ := purges_endures rules before w
    refine ⟨?_, purge_invalidSyntax_iff, fun malformed => ?_, ?_⟩
    · have place : before.length = (w.purges rules before).1.length :=
        (length_purges rules before w).symm
      rw [purges_append, place, List.getElem?_append_right (Nat.le_refl _), Nat.sub_self]
      rfl
    · rw [purge_of_malformed malformed]
      rfl
    · rw [purge_noTarget_iff, endures.cleared_iff fun _ _ => rfl]

/-- Two bosses with a minion between them: three of four well-formed commands find a target. -/
theorem purges_exact_two_bosses :
    let w : World :=
      { World.empty {} with
        hostiles := [.boss ⟨0, 0⟩ 10, .enemy ⟨1, 0⟩ 5, .boss ⟨2, 0⟩ 4] }
    let commands := ["s/a/b/g", "s/a/b", "s/c/d/g", "s/e/f/g", "s/g/h/g"]
    let retold := ["s/a/x/g", "quit", "s/c/y/g", "s/e/x/g", "s/g/y/g"]
    let retargeted := ["s/x/x/g", "", "s/x/y/g", "s/y/x/g", "s/y/y/g"]
    let after := (w.purges {} commands).2
    (w.purges {} commands).1 = [.damaged 5, .invalidSyntax, .purged, .purged, .noTarget] ∧
      (∃ blows, Endures Entity.isBoss 5 w.hostiles 4 blows 2 after.hostiles) ∧
      stamina Entity.isBoss 5 w.hostiles ≤ (3 : ℕ) ∧
      w.purges {} retold = w.purges {} commands ∧
      ∃ log, w.purges {} retargeted = ((w.purges {} commands).1, after.relog log) := by
  intro w commands retold retargeted after
  obtain ⟨endures, -, each, same, alike⟩ := purges_exact {} commands w
  have answers : (w.purges {} commands).1 =
      [.damaged 5, .invalidSyntax, .purged, .purged, .noTarget] := by decide +kernel
  have last := each (commands.take 4) "s/g/h/g" [] rfl
  have answered : ((w.purges {} (commands.take 4)).2.purge {} "s/g/h/g").1 = .noTarget := by
    decide +kernel
  refine ⟨answers, ?_, (last.2.2.2.mp answered).2, same retold ?_, alike retargeted ?_⟩
  · rw [answers] at endures
    exact endures
  · decide +kernel
  · decide +kernel

end World
end GridRunner
