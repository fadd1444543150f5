import GridRunner.Proofs.World.Blows
import Mathlib.Data.ENat.Lattice

/-! # How many blows a list of hostiles endures

Blows fall on the first hostile in reach until it is gone, and then on the next.  So a number of
blows fells as many of them, front to back, as it covers; what is left of it weakens the one behind
them, and nobody else is touched (`Blows.endures`).
-/

namespace GridRunner

/-- The least number of blows, of one or more, that leaves nothing of a strength; infinite if none
does. -/
noncomputable def endurance (damage hp : Int32) : ℕ∞ :=
  ⨅ (n : ℕ) (_ : 1 ≤ n ∧ hp - .ofNat n * damage ≤ 0), (n : ℕ∞)

/-- A number of blows takes hit points without ever leaving the range of 32 bits. -/
def Entity.Bears (e : Entity) (damage : Int32) (blows : ℕ) : Prop :=
  ∀ n : ℕ, n ≤ blows → -2147483648 ≤ e.hp.toInt - n * damage.toInt ∧
    e.hp.toInt - n * damage.toInt ≤ 2147483647

/-- The blows that the entities in reach endure, all together. -/
noncomputable def stamina (near : Entity → Bool) (damage : Int32) (es : List Entity) : ℕ∞ :=
  ((es.filter near).map fun e => endurance damage e.hp).sum

/-- What a number of blows leaves of a list, and how many it erases, each entity being felled
before the next is hit. -/
inductive Worn (near : Entity → Bool) (damage : Int32) :
    List Entity → (blows erased : Nat) → List Entity → Prop
  /-- The blows are just enough for everybody in reach. -/
  | all {es : List Entity} {blows : Nat} :
      stamina near damage es = blows →
      Worn near damage es blows (es.countP near) (es.filter fun e => !near e)
  /-- The blows are enough for those in front of an entity in reach, which survives the rest. -/
  | part {front back : List Entity} {e : Entity} {paid extra : Nat} :
      stamina near damage front = paid → near e = true → (extra : ℕ∞) < endurance damage e.hp →
      Worn near damage (front ++ e :: back) (paid + extra) (front.countP near)
        ((front.filter fun x => !near x) ++ e.hurt (.ofNat extra * damage) :: back)

/-- What becomes of a list under at most `count` blows, dealt as long as anybody is in reach. -/
structure Endures (near : Entity → Bool) (damage : Int32) (es : List Entity)
    (count blows erased : Nat) (left : List Entity) : Prop where
  spent : (blows : ℕ∞) = min (count : ℕ∞) (stamina near damage es)
  worn : Worn near damage es blows erased left
  /-- Those out of reach are as they were. -/
  far : (left.filter fun e => !near e) = es.filter fun e => !near e
  /-- As long as the hit points stay in range they are taken as in the integers. -/
  plain : ∀ e ∈ es, ∀ n : ℕ, e.Bears damage n →
    (e.hurt (.ofNat n * damage)).hp.toInt = e.hp.toInt - n * damage.toInt ∧
    ((n : ℕ∞) < endurance damage e.hp ↔
      ∀ k : ℕ, 1 ≤ k → k ≤ n → 0 < e.hp.toInt - k * damage.toInt)

/-! ## One entity -/

theorem le_endurance_iff {damage hp : Int32} {n : ℕ} :
    (n : ℕ∞) ≤ endurance damage hp ↔ ∀ k : ℕ, 1 ≤ k → hp - .ofNat k * damage ≤ 0 → n ≤ k := by
  simp only [endurance, le_iInf_iff, and_imp, Nat.cast_le]

theorem lt_endurance_iff {damage hp : Int32} {n : ℕ} :
    (n : ℕ∞) < endurance damage hp ↔ ∀ k : ℕ, 1 ≤ k → k ≤ n → 0 < hp - .ofNat k * damage := by
  rw [← ENat.add_one_le_iff (ENat.natCast_ne_top n), ← Nat.cast_succ, le_endurance_iff]
  refine forall₂_congr fun k positive => ⟨fun least few => ?_, fun survived gone => ?_⟩
  · rw [← Int32.not_le]
    intro gone
    have more := least gone
    omega
  · rw [← Int32.not_lt] at gone
    exact Nat.succ_le_of_lt (Nat.lt_of_not_le fun few => gone (survived few))

theorem one_blow (damage hp : Int32) : hp - .ofNat 1 * damage = hp - damage := by simp

/-- What is left after one more blow. -/
theorem blow_succ (damage hp : Int32) (n : ℕ) :
    hp - .ofNat (n + 1) * damage = hp - damage - .ofNat n * damage := by
  rw [Int32.ofNat_add, Int32.add_mul, Int32.sub_sub, Int32.add_comm]
  simp

theorem hurt_blow_succ (e : Entity) (damage : Int32) (n : ℕ) :
    (e.hurt damage).hurt (.ofNat n * damage) = e.hurt (.ofNat (n + 1) * damage) := by
  simp only [Entity.hurt, blow_succ]

theorem endurance_of_felled {damage hp : Int32} (felled : hp - damage ≤ 0) :
    endurance damage hp = 1 := by
  refine ENat.eq_of_forall_natCast_le_iff fun n => ?_
  rw [le_endurance_iff, Nat.cast_le_one]
  constructor
  · intro least
    exact least 1 (Nat.le_refl 1) (one_blow damage hp ▸ felled)
  · intro small k positive _
    exact small.trans positive

/-- A blow that is survived is one of those endured. -/
theorem endurance_of_survived {damage hp : Int32} (survived : 0 < hp - damage) :
    endurance damage hp = endurance damage (hp - damage) + 1 := by
  refine ENat.eq_of_forall_natCast_le_iff fun n => ?_
  cases n with
  | zero => simp
  | succ n =>
    rw [Nat.cast_succ, ENat.add_le_add_iff_right ENat.one_ne_top, ← Nat.cast_succ]
    simp only [le_endurance_iff]
    constructor
    · intro least k positive gone
      exact Nat.le_of_succ_le_succ
        (least (k + 1) (Nat.le_add_left 1 k) (blow_succ damage hp k ▸ gone))
    · intro least k positive gone
      obtain ⟨k, rfl⟩ := Nat.exists_eq_add_of_le' positive
      cases k with
      | zero => exact absurd survived (Int32.not_lt.mpr (one_blow damage hp ▸ gone))
      | succ k =>
        rw [blow_succ] at gone
        exact Nat.succ_le_succ (least (k + 1) (Nat.le_add_left 1 k) gone)

theorem endurance_pos (damage hp : Int32) : 0 < endurance damage hp := by
  have one : ((1 : ℕ) : ℕ∞) ≤ endurance damage hp :=
    le_endurance_iff.mpr fun k positive _ => positive
  exact lt_of_lt_of_le zero_lt_one one

/-! ## Blows in range -/

namespace Entity.Bears

variable {e : Entity} {damage : Int32} {n : ℕ}

theorem of_le {k : ℕ} (h : e.Bears damage n) (few : k ≤ n) : e.Bears damage k :=
  fun m fewer => h m (fewer.trans few)

theorem toInt_hurt (h : e.Bears damage n) :
    (e.hurt (.ofNat n * damage)).hp.toInt = e.hp.toInt - n * damage.toInt := by
  obtain ⟨least, greatest⟩ := h n (Nat.le_refl n)
  rw [hurt, Int32.toInt_sub, Int32.toInt_mul, Int32.toInt_ofNat', Int.bmod_mul_bmod,
    Int.sub_bmod_bmod, ← wrapped_eq_bmod, wrapped_of_fits least greatest]

theorem lt_endurance_iff (h : e.Bears damage n) :
    (n : ℕ∞) < endurance damage e.hp ↔
      ∀ k : ℕ, 1 ≤ k → k ≤ n → 0 < e.hp.toInt - k * damage.toInt := by
  rw [GridRunner.lt_endurance_iff]
  refine forall₃_congr fun k _ few => ?_
  rw [← (h.of_le few).toInt_hurt, Int32.lt_iff_toInt_lt]
  rfl

end Entity.Bears

/-! ## The first in reach -/

section Lists

variable {near : Entity → Bool} {damage : Int32} {e : Entity} {es left left' : List Entity}

theorem stamina_cons_far (far : near e = false) :
    stamina near damage (e :: es) = stamina near damage es := by
  simp [stamina, far]

theorem stamina_cons_near (close : near e = true) :
    stamina near damage (e :: es) = endurance damage e.hp + stamina near damage es := by
  simp [stamina, close]

theorem stamina_append (front back : List Entity) :
    stamina near damage (front ++ back) = stamina near damage front + stamina near damage back := by
  simp [stamina]

theorem hitFirst_append {front back : List Entity} (far : ∀ x ∈ front, near x = false)
    (close : near e = true) :
    Entity.hitFirst near damage (front ++ e :: back) =
      some (e.hurt damage,
        front ++ if (e.hurt damage).alive then e.hurt damage :: back else back) := by
  induction front with
  | nil => simp [Entity.hitFirst, close]
  | cons x front ih =>
    obtain ⟨first, rest⟩ := List.forall_mem_cons.mp far
    rw [List.cons_append, Entity.hitFirst, if_neg (Bool.eq_false_iff.mp first), ih rest]
    rfl

namespace Worn

variable {blows erased : Nat}

theorem cons_far (far : near e = false) (h : Worn near damage es blows erased left) :
    Worn near damage (e :: es) blows erased (e :: left) := by
  cases h with
  | all paid =>
    simpa [far] using Worn.all ((stamina_cons_far far).trans paid)
  | @part front back target paid extra covered close fewer =>
    have covered' : stamina near damage (e :: front) = paid := (stamina_cons_far far).trans covered
    have more : Worn near damage ((e :: front) ++ target :: back) _ _ _ :=
      .part covered' close fewer
    simpa [far] using more

theorem cons_near {cost : Nat} (close : near e = true) (felled : endurance damage e.hp = cost)
    (h : Worn near damage es blows erased left) :
    Worn near damage (e :: es) (cost + blows) (erased + 1) left := by
  cases h with
  | all paid =>
    have paid' : stamina near damage (e :: es) = (cost + blows : ℕ) := by
      rw [stamina_cons_near close, felled, paid, Nat.cast_add]
    simpa [close] using Worn.all paid'
  | @part front back target paid extra covered close' fewer =>
    have covered' : stamina near damage (e :: front) = (cost + paid : ℕ) := by
      rw [stamina_cons_near close, felled, covered, Nat.cast_add]
    have more : Worn near damage ((e :: front) ++ target :: back) _ _ _ :=
      .part covered' close' fewer
    simpa [close, Nat.add_assoc] using more

theorem length (h : Worn near damage es blows erased left) :
    es.length = left.length + erased := by
  have parts (xs : List Entity) :
      xs.length = (xs.filter fun e => !near e).length + xs.countP near := by
    rw [List.countP_eq_length_filter, Nat.add_comm, List.length_eq_length_filter_add near]
  cases h with
  | all => exact parts es
  | @part front back target =>
    have passed := parts front
    simp only [List.length_append, List.length_cons]
    omega

theorem far (kept : ∀ e damage, near (Entity.hurt e damage) = near e)
    (h : Worn near damage es blows erased left) :
    (left.filter fun e => !near e) = es.filter fun e => !near e := by
  cases h with
  | all => simp
  | part covered close fewer => simp [kept, close]

/-- Blows that somebody in reach survives are fewer than could be endured. -/
theorem part_lt_stamina {front back : List Entity} {paid extra : Nat}
    (covered : stamina near damage front = paid) (close : near e = true)
    (fewer : (extra : ℕ∞) < endurance damage e.hp) :
    ((paid + extra : ℕ) : ℕ∞) < stamina near damage (front ++ e :: back) := by
  rw [stamina_append, stamina_cons_near close, covered, Nat.cast_add, ← add_assoc]
  have less := (ENat.add_lt_add_iff_left (ENat.natCast_ne_top paid)).mpr fewer
  exact less.trans_le le_self_add

theorem le_stamina (h : Worn near damage es blows erased left) :
    (blows : ℕ∞) ≤ stamina near damage es := by
  cases h with
  | all paid => exact paid.ge
  | part covered close fewer => exact (part_lt_stamina covered close fewer).le

/-- Nobody in reach is left if and only if all that could be endured was dealt. -/
theorem cleared_iff (kept : ∀ e damage, near (Entity.hurt e damage) = near e)
    (h : Worn near damage es blows erased left) :
    (∀ e ∈ left, near e = false) ↔ stamina near damage es = blows := by
  cases h with
  | all paid => simp [paid]
  | @part front back target paid extra covered close fewer =>
    constructor
    · intro cleared
      have survivor := cleared (target.hurt (.ofNat extra * damage)) (by simp)
      rw [kept, close] at survivor
      cases survivor
    · intro spent
      exact absurd spent (part_lt_stamina covered close fewer).ne'

end Worn

namespace Blows

theorem eq_of_zero (h : Blows near damage es 0 left) : left = es := by
  cases h
  rfl

theorem exists_hitFirst {blows : Nat} (h : Blows near damage es (blows + 1) left) :
    ∃ struck mid, Entity.hitFirst near damage es = some (struck, mid) ∧
      Blows near damage mid blows left := by
  cases h with
  | blow far close rest =>
    refine ⟨_, _, hitFirst_append far close, ?_⟩
    simpa [Entity.alive, Entity.hurt] using rest

theorem of_hitFirst {blows : Nat} {struck : Entity} {mid : List Entity}
    (hit : Entity.hitFirst near damage es = some (struck, mid))
    (h : Blows near damage mid blows left) : Blows near damage es (blows + 1) left := by
  obtain ⟨front, e, back, rfl, close, far, rfl, rfl⟩ := Entity.hitFirst_eq_some hit
  refine .blow far close ?_
  simpa [Entity.alive, Entity.hurt] using h

theorem append {blows more : Nat} {mid : List Entity} (h : Blows near damage es blows mid)
    (h' : Blows near damage mid more left) : Blows near damage es (blows + more) left := by
  induction blows generalizing es with
  | zero =>
    rw [h.eq_of_zero] at h'
    rwa [Nat.zero_add]
  | succ blows ih =>
    obtain ⟨struck, next, hit, rest⟩ := h.exists_hitFirst
    rw [Nat.succ_add]
    exact of_hitFirst hit (ih rest)

/-- No blow finds a target among those out of reach. -/
theorem eq_of_cleared {blows : Nat} (h : Blows near damage es blows left)
    (cleared : ∀ e ∈ es, near e = false) : left = es := by
  cases blows with
  | zero => exact h.eq_of_zero
  | succ blows =>
    obtain ⟨struck, mid, hit, -⟩ := h.exists_hitFirst
    rw [(Entity.hitFirst_eq_none_iff near damage es).mpr cleared] at hit
    cases hit

/-- Series of blows that end only with their counts or with nobody left in reach, one after the
other, end only with both counts or with nobody left in reach. -/
theorem ends_append {blows more count count' : Nat} {mid : List Entity}
    (h : Blows near damage mid more left) (ends : blows = count ∨ ∀ e ∈ mid, near e = false)
    (ends' : more = count' ∨ ∀ e ∈ left, near e = false) :
    blows + more = count + count' ∨ ∀ e ∈ left, near e = false := by
  rcases ends with rfl | cleared
  · exact ends'.imp_left (congrArg (blows + ·))
  · right
    rwa [h.eq_of_cleared cleared]

/-- Blows leave nothing to chance. -/
theorem unique {blows : Nat} (h : Blows near damage es blows left)
    (h' : Blows near damage es blows left') : left = left' := by
  induction blows generalizing es with
  | zero => rw [h.eq_of_zero, h'.eq_of_zero]
  | succ blows ih =>
    obtain ⟨struck, mid, hit, rest⟩ := h.exists_hitFirst
    obtain ⟨struck', mid', hit', rest'⟩ := h'.exists_hitFirst
    cases hit.symm.trans hit'
    exact ih rest rest'

theorem cons_far {blows : Nat} (far : near e = false)
    (h : Blows near damage (e :: es) blows left) :
    ∃ rest, left = e :: rest ∧ Blows near damage es blows rest := by
  induction blows generalizing es with
  | zero => exact ⟨es, h.eq_of_zero, .none es⟩
  | succ blows ih =>
    obtain ⟨struck, mid, hit, later⟩ := h.exists_hitFirst
    rw [Entity.hitFirst, if_neg (Bool.eq_false_iff.mp far), Option.map_eq_some_iff] at hit
    obtain ⟨⟨target, next⟩, hit, split⟩ := hit
    cases split
    obtain ⟨rest, rfl, further⟩ := ih later
    exact ⟨rest, rfl, of_hitFirst hit further⟩

/-- Blows on an entity in reach stay with it until it is felled. -/
theorem cons_near (kept : ∀ e damage, near (Entity.hurt e damage) = near e) {blows : Nat}
    (close : near e = true) (h : Blows near damage (e :: es) blows left) :
    ((blows : ℕ∞) < endurance damage e.hp ∧ left = e.hurt (.ofNat blows * damage) :: es) ∨
      ∃ paid more, endurance damage e.hp = (paid : ℕ) ∧ blows = paid + more ∧
        Blows near damage es more left := by
  induction blows generalizing e with
  | zero =>
    left
    exact ⟨endurance_pos damage e.hp, by simp [h.eq_of_zero, Entity.hurt]⟩
  | succ blows ih =>
    obtain ⟨struck, mid, hit, later⟩ := h.exists_hitFirst
    rw [Entity.hitFirst, if_pos close, Option.some.injEq, Prod.mk.injEq] at hit
    obtain ⟨rfl, rfl⟩ := hit
    by_cases survived : 0 < e.hp - damage
    · have alive : (e.hurt damage).alive = true := decide_eq_true survived
      rw [if_pos alive] at later
      rw [endurance_of_survived survived]
      rcases ih ((kept e damage).trans close) later with ⟨fewer, rfl⟩ | ⟨paid, more, all, rfl, rest⟩
      · left
        refine ⟨?_, ?_⟩
        · rw [Nat.cast_succ]
          exact (ENat.add_lt_add_iff_right ENat.one_ne_top).mpr fewer
        · rw [hurt_blow_succ]
      · right
        refine ⟨paid + 1, more, ?_, Nat.add_right_comm paid more 1, rest⟩
        rw [Nat.cast_succ, ← all]
        rfl
    · have dead : (e.hurt damage).alive = false := decide_eq_false survived
      rw [dead] at later
      right
      exact ⟨1, blows, endurance_of_felled (Int32.not_lt.mp survived), Nat.add_comm blows 1, later⟩

theorem worn (kept : ∀ e damage, near (Entity.hurt e damage) = near e) {blows : Nat}
    (h : Blows near damage es blows left) : ∃ erased, Worn near damage es blows erased left := by
  induction es generalizing blows left with
  | nil =>
    cases blows with
    | zero =>
      rw [h.eq_of_zero]
      exact ⟨0, .all rfl⟩
    | succ blows =>
      obtain ⟨struck, mid, hit, -⟩ := h.exists_hitFirst
      cases hit
  | cons e es ih =>
    cases close : near e with
    | false =>
      obtain ⟨rest, rfl, later⟩ := h.cons_far close
      obtain ⟨erased, worn⟩ := ih later
      exact ⟨erased, worn.cons_far close⟩
    | true =>
      rcases h.cons_near kept close with ⟨fewer, rfl⟩ | ⟨paid, more, felled, rfl, later⟩
      · have part : Worn near damage ([] ++ e :: es) (0 + blows) 0
            ([] ++ e.hurt (.ofNat blows * damage) :: es) := .part rfl close fewer
        rw [Nat.zero_add] at part
        exact ⟨_, part⟩
      · obtain ⟨erased, worn⟩ := ih later
        exact ⟨erased + 1, worn.cons_near close felled⟩

/-- Blows that end only with their count or with nobody left in reach. -/
theorem endures (kept : ∀ e damage, near (Entity.hurt e damage) = near e) {blows count : Nat}
    (h : Blows near damage es blows left) (most : blows ≤ count)
    (ends : blows = count ∨ ∀ e ∈ left, near e = false) :
    Endures near damage es count blows (es.length - left.length) left := by
  obtain ⟨erased, worn⟩ := h.worn kept
  have fallen : es.length - left.length = erased := by
    have length := worn.length
    omega
  refine ⟨?_, fallen ▸ worn, worn.far kept, fun _ _ _ bears =>
    ⟨bears.toInt_hurt, bears.lt_endurance_iff⟩⟩
  rcases ends with rfl | cleared
  · exact (min_eq_left worn.le_stamina).symm
  · rw [(worn.cleared_iff kept).mp cleared, min_eq_right (Nat.cast_le.mpr most)]

end Blows

namespace Endures

variable {count blows erased : Nat}

theorem cleared_iff (kept : ∀ e damage, near (Entity.hurt e damage) = near e)
    (h : Endures near damage es count blows erased left) :
    (∀ e ∈ left, near e = false) ↔ stamina near damage es ≤ count := by
  rw [h.worn.cleared_iff kept, h.spent, eq_comm, min_eq_right_iff]

end Endures
end Lists
end GridRunner
