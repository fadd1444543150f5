import GridRunner.Proofs.World.Endurance

/-! # Counted deletes

A delete deals as many strikes as its count says, or as many as the hostiles in reach endure if
these are fewer.  So two deletes one after the other do to the hostiles what one of both counts
together does (`delete_exact`).
-/

namespace GridRunner
namespace World

section Deletes

variable (rules : Rules) (w : World)

theorem delete_endures (count : Nat) :
    Endures w.strikable (w.strikeDamage rules) w.hostiles (max count 1)
      (w.delete rules count).1.strikes (w.delete rules count).1.erased
      (w.delete rules count).2.hostiles := by
  have dealt := w.delete_deals rules count
  have endures := dealt.blows.endures (fun _ _ => rfl) dealt.most dealt.ends
  have lost : w.hostiles.length =
      (w.delete rules count).2.hostiles.length + (w.delete rules count).1.erased :=
    (w.delete_lost rules count).2
  rwa [lost, Nat.add_sub_cancel_left] at endures

theorem delete_of_nobody (count : Nat) (nobody : ∀ e ∈ w.hostiles, w.strikable e = false) :
    w.delete rules count = (⟨0, 0⟩, w.note "Nothing to delete here.") := by
  obtain ⟨n, least⟩ := Nat.exists_eq_add_of_le' (Nat.le_max_right count 1)
  rw [delete, least, strikes, strike?_eq_none_iff.mpr nobody]
  rfl

theorem delete_strikable (count : Nat) : (w.delete rules count).2.strikable = w.strikable := by
  obtain ⟨hostiles, log, -, after⟩ := w.delete_eq rules count
  rw [after]
  rfl

theorem delete_strikeDamage (count : Nat) :
    (w.delete rules count).2.strikeDamage rules = w.strikeDamage rules := by
  obtain ⟨hostiles, log, -, after⟩ := w.delete_eq rules count
  rw [after]
  rfl

/-- Two deletes deal blows as one of both counts does. -/
theorem delete_delete_deals {count more : Nat} (first : 1 ≤ count) (second : 1 ≤ more) :
    Blows w.strikable (w.strikeDamage rules) w.hostiles
      ((w.delete rules count).1.strikes + ((w.delete rules count).2.delete rules more).1.strikes)
      ((w.delete rules count).2.delete rules more).2.hostiles ∧
    (w.delete rules count).1.strikes + ((w.delete rules count).2.delete rules more).1.strikes =
      (w.delete rules (count + more)).1.strikes := by
  obtain ⟨dealt, most, ends⟩ := w.delete_deals rules count
  obtain ⟨rest, most', ends'⟩ := (w.delete rules count).2.delete_deals rules more
  rw [delete_strikable, delete_strikeDamage] at rest
  rw [delete_strikable] at ends'
  rw [Nat.max_eq_left first] at most ends
  rw [Nat.max_eq_left second] at most' ends'
  have blows := dealt.append rest
  refine ⟨blows, ?_⟩
  -- Both sides are what the hostiles endure, or both counts if that is less.
  have together :=
    (blows.endures (fun _ _ => rfl) (Nat.add_le_add most most') (rest.ends_append ends ends')).spent
  have joint := (w.delete_endures rules (count + more)).spent
  rw [Nat.max_eq_left (Nat.le_add_right_of_le first)] at joint
  exact Nat.cast_inj.mp (together.trans joint.symm)

theorem delete_delete {count more : Nat} (first : 1 ≤ count) (second : 1 ≤ more) :
    ((w.delete rules count).2.delete rules more).2.hostiles =
        (w.delete rules (count + more)).2.hostiles ∧
      (w.delete rules count).1.strikes + ((w.delete rules count).2.delete rules more).1.strikes =
        (w.delete rules (count + more)).1.strikes ∧
      (w.delete rules count).1.erased + ((w.delete rules count).2.delete rules more).1.erased =
        (w.delete rules (count + more)).1.erased := by
  obtain ⟨blows, strikes⟩ := delete_delete_deals rules w first second
  rw [strikes] at blows
  have same := blows.unique (w.delete_deals rules (count + more)).blows
  have lost : w.hostiles.length =
      (w.delete rules count).2.hostiles.length + (w.delete rules count).1.erased :=
    (w.delete_lost rules count).2
  have lost' : (w.delete rules count).2.hostiles.length =
      ((w.delete rules count).2.delete rules more).2.hostiles.length +
        ((w.delete rules count).2.delete rules more).1.erased :=
    ((w.delete rules count).2.delete_lost rules more).2
  have joint : w.hostiles.length =
      (w.delete rules (count + more)).2.hostiles.length +
        (w.delete rules (count + more)).1.erased :=
    (w.delete_lost rules (count + more)).2
  rw [← same] at joint
  exact ⟨same, strikes, by omega⟩

/-- A delete spends its count, or what the hostiles in reach endure if that is less, front to back.
It changes nothing but the hostiles and the log, and with nobody in reach nothing but the log.  A
delete after another continues it. -/
theorem delete_exact (count : Nat) :
    let damage := if w.aura then rules.auraDamage else rules.strikeDamage
    let dealt := (w.delete rules count).1
    let after := (w.delete rules count).2
    Endures w.strikable damage w.hostiles (max count 1) dealt.strikes dealt.erased
        after.hostiles ∧
      after = { w with hostiles := after.hostiles, log := after.log } ∧
      ((∀ e ∈ w.hostiles, w.strikable e = false) →
        w.delete rules count = (⟨0, 0⟩, w.note "Nothing to delete here.")) ∧
      ∀ more, 1 ≤ count → 1 ≤ more →
        let further := after.delete rules more
        let joint := w.delete rules (count + more)
        further.2.hostiles = joint.2.hostiles ∧
          dealt.strikes + further.1.strikes = joint.1.strikes ∧
          dealt.erased + further.1.erased = joint.1.erased := by
  refine ⟨w.delete_endures rules count, ?_, w.delete_of_nobody rules count,
    fun more first second => w.delete_delete rules first second⟩
  obtain ⟨hostiles, log, -, after⟩ := w.delete_eq rules count
  rw [after]

end Deletes

/-- Four strikes fell the minion and dent the boss, past the minion out of reach; of five more the
boss takes the four that are left to it.  In an empty hall there is only something to tell. -/
theorem delete_exact_melee :
    let w : World :=
      { World.empty {} with
        player := .player ⟨1, 1⟩ 20
        hostiles := [.enemy ⟨0, 0⟩ 5, .enemy ⟨3, 1⟩ 5, .boss ⟨2, 2⟩ 10] }
    let hall : World := { w with hostiles := [.enemy ⟨3, 1⟩ 5] }
    Endures w.strikable 2 w.hostiles 4 (w.delete {} 4).1.strikes (w.delete {} 4).1.erased
        (w.delete {} 4).2.hostiles ∧
      (w.delete {} 4).1 = ⟨4, 1⟩ ∧
      (w.delete {} 4).2.hostiles =
        [.enemy ⟨3, 1⟩ 5, { Entity.boss ⟨2, 2⟩ 10 with hp := 8 }] ∧
      ((w.delete {} 4).2.delete {} 5).1 = ⟨4, 1⟩ ∧ (w.delete {} (4 + 5)).1 = ⟨8, 2⟩ ∧
      ((w.delete {} 4).2.delete {} 5).2.hostiles = (w.delete {} (4 + 5)).2.hostiles ∧
      (∀ e ∈ hall.hostiles, hall.strikable e = false) ∧
      hall.delete {} 1 = (⟨0, 0⟩, hall.note "Nothing to delete here.") := by
  intro w hall
  have nobody : ∀ e ∈ hall.hostiles, hall.strikable e = false := by decide +kernel
  obtain ⟨endures, -, -, continues⟩ := delete_exact {} w 4
  exact ⟨endures, by decide +kernel, by decide +kernel, by decide +kernel, by decide +kernel,
    (continues 5 (by decide) (by decide)).1, nobody, (delete_exact {} hall 1).2.2.1 nobody⟩

end World
end GridRunner
