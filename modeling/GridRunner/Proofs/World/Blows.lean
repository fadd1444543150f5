import GridRunner.Proofs.World.Removal

/-! # Blows

A delete deals one blow after another, all of the same damage, each to the first hostile in reach.
It ends when the count is used up or nobody is left in reach (`delete_deals`).
-/

namespace GridRunner

/-- A number of blows, each dealt to the first of the entities in reach that is still there. -/
inductive Blows (near : Entity → Bool) (damage : Int32) : List Entity → Nat → List Entity → Prop
  | none (es : List Entity) : Blows near damage es 0 es
  | blow {front back left : List Entity} {e : Entity} {blows : Nat} :
      (∀ x ∈ front, near x = false) → near e = true →
      Blows near damage
        (front ++ if 0 < e.hp - damage then { e with hp := e.hp - damage } :: back else back)
        blows left →
      Blows near damage (front ++ e :: back) (blows + 1) left

namespace World

/-- A delete that deals blows of the damage, as many as its count says while anybody is in reach. -/
structure Deals (w : World) (damage : Int32) (count : Nat) (struck : Struck × World) : Prop where
  blows : Blows w.strikable damage w.hostiles struck.1.strikes struck.2.hostiles
  most : struck.1.strikes ≤ max count 1
  ends : struck.1.strikes = max count 1 ∨ ∀ e ∈ struck.2.hostiles, w.strikable e = false

theorem strike?_eq_none_iff {w : World} {damage : Int32} :
    w.strike? damage = none ↔ ∀ e ∈ w.hostiles, w.strikable e = false := by
  rw [strike?, Option.map_eq_none_iff, Entity.hitFirst_eq_none_iff]

theorem strikable_of_strike? {w after : World} {damage : Int32} {erased : Bool}
    (h : w.strike? damage = some (erased, after)) : after.strikable = w.strikable := by
  obtain ⟨hostiles, log, -, rfl⟩ := strike?_eq h
  rfl

theorem strikes_blows (damage : Int32) (count : Nat) (dealt : Struck) (w : World) :
    ∃ blows ≤ count, (strikes damage count dealt w).1.strikes = dealt.strikes + blows ∧
      Blows w.strikable damage w.hostiles blows (strikes damage count dealt w).2.hostiles ∧
      (blows = count ∨
        ∀ e ∈ (strikes damage count dealt w).2.hostiles, w.strikable e = false) := by
  induction count generalizing dealt w with
  | zero => exact ⟨0, Nat.le_refl 0, rfl, .none _, .inl rfl⟩
  | succ count ih =>
    rw [strikes]
    cases struck : w.strike? damage with
    | none => exact ⟨0, Nat.zero_le _, rfl, .none _, .inr (strike?_eq_none_iff.mp struck)⟩
    | some result =>
      obtain ⟨erased, after⟩ := result
      have reach := strikable_of_strike? struck
      obtain ⟨target, hit, -⟩ := strike?_eq_some struck
      obtain ⟨front, e, back, split, near, far, rfl, left⟩ := Entity.hitFirst_eq_some hit
      obtain ⟨blows, most, total, later, ends⟩ :=
        ih ⟨dealt.strikes + 1, dealt.erased + erased.toNat⟩ after
      rw [reach, left] at later
      rw [reach] at ends
      refine ⟨blows + 1, Nat.succ_le_succ most, ?_, ?_, ?_⟩
      · rw [total]
        exact Nat.add_right_comm dealt.strikes 1 blows
      · rw [split]
        refine .blow far near ?_
        simpa [Entity.alive, Entity.hurt] using later
      · exact ends.imp_left (congrArg (· + 1))

theorem delete_deals (rules : Rules) (count : Nat) (w : World) :
    Deals w (w.strikeDamage rules) count (w.delete rules count) := by
  obtain ⟨blows, most, total, dealt, ends⟩ :=
    strikes_blows (w.strikeDamage rules) (max count 1) ⟨0, 0⟩ w
  rw [Nat.zero_add] at total
  subst total
  -- What is told at the end touches no hostile.
  have hostiles : (w.delete rules count).2.hostiles =
      (strikes (w.strikeDamage rules) (max count 1) ⟨0, 0⟩ w).2.hostiles := by
    unfold delete
    dsimp only
    split <;> rfl
  exact ⟨hostiles ▸ dealt, most, hostiles ▸ ends⟩

end World
end GridRunner
