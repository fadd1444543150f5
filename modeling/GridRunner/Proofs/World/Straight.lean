import GridRunner.Proofs.World.Region
import Mathlib.Order.Nat

/-! # Walks in a straight line

A walk by single cells takes the free cells ahead of it one by one.  Their number and the cell
behind them tell where it ends, why, and all that it changes (`WellPlaced.move_strides`).
-/

namespace GridRunner
namespace World

def ahead (w : World) (dx dy : Int) (steps : Nat) : Position :=
  w.player.position.plus (steps * dx) (steps * dy)

/-- Of the cells ahead of the player the first `k` are free, and the next is not. -/
structure Clear (w : World) (dx dy : Int) (k : Nat) : Prop where
  free : ∀ n < k, w.IsFree (w.ahead dx dy (n + 1))
  barred : ¬ w.IsFree (w.ahead dx dy (k + 1))

/-- What becomes of a walk in a straight line, with `k` free cells ahead. -/
structure Strides (w : World) (m : Move) (k : Nat) (walked : Walked × World) : Prop where
  steps : walked.1.steps = min m.repeats k
  unstopped : walked.1.stop = none ↔ m.repeats ≤ k
  stopped : ∀ stop, walked.1.stop = some stop ↔
    k < m.repeats ∧ w.Meets (w.ahead m.dx m.dy (k + 1)) stop
  /-- Nothing else changes. -/
  world : walked.2 =
    { w with
      player := { w.player with position := w.ahead m.dx m.dy (min m.repeats k) }
      aura := decide (1 < m.count)
      complete := w.complete || decide (walked.1.stop = some .exit)
      log := (walked.1.stop.bind Stop.message?).elim w.log w.log.push }

section Straight

variable {w w' : World} {dx dy : Int} {k : Nat}

theorem ahead_zero (w : World) (dx dy : Int) : w.ahead dx dy 0 = w.player.position := by
  simp [ahead, Position.plus]

theorem ahead_succ (w : World) (dx dy : Int) (n : Nat) :
    w.ahead dx dy (n + 1) = (w.ahead dx dy n).plus dx dy := by
  simp only [ahead, Position.plus, Int.natCast_succ, Int.add_mul, Int.one_mul, Int.add_assoc]

/-! ## How far the cells are free -/

/-- The grid ends within its longer side. -/
theorem lt_of_contains_ahead (inside : w.contains w.player.position = true)
    (unit : dx.natAbs + dy.natAbs = 1) {n : Nat} (h : w.contains (w.ahead dx dy n) = true) :
    n < max w.width w.height := by
  rw [contains_iff] at inside h
  have sides : (dx = 1 ∧ dy = 0) ∨ (dx = -1 ∧ dy = 0) ∨ (dx = 0 ∧ dy = 1) ∨
      (dx = 0 ∧ dy = -1) := by omega
  dsimp only [ahead, Position.plus] at h
  rcases sides with ⟨rfl, rfl⟩ | ⟨rfl, rfl⟩ | ⟨rfl, rfl⟩ | ⟨rfl, rfl⟩ <;> omega

theorem exists_clear (inside : w.contains w.player.position = true)
    (unit : dx.natAbs + dy.natAbs = 1) : ∃ k, w.Clear dx dy k := by
  classical
  have barred : ∃ k, ¬ w.IsFree (w.ahead dx dy (k + 1)) := by
    refine ⟨max w.width w.height, fun free => ?_⟩
    have near := lt_of_contains_ahead inside unit (contains_of_isFloor free.1)
    omega
  refine ⟨Nat.find barred, ?_, Nat.find_spec barred⟩
  intro n before
  exact not_not.mp (Nat.find_min barred before)

/-! ## The walk -/

theorem SameMap.meets (same : SameMap w w') {p : Position} {stop : Stop} (meets : w.Meets p stop) :
    w'.Meets p stop := by
  have entities : w'.hostiles ++ w'.fixtures = w.hostiles ++ w.fixtures := by
    rw [same.hostiles, same.fixtures]
  cases meets with
  | edge outside => exact .edge (same.thins.contains_eq p ▸ outside)
  | exit member here exit => exact .exit (entities ▸ member) here exit
  | blocked member here obstacle => exact .blocked (entities ▸ member) here obstacle
  | wall within solid bare =>
    exact .wall (same.thins.contains_eq p ▸ within) (same.thins.isFloor_eq p ▸ solid)
      (entities ▸ bare)

/-- The player stands on a free cell after every step onto one. -/
theorem WellPlaced.isFree_ahead (placed : w.WellPlaced) {steps : Nat}
    (free : ∀ n < steps, w.IsFree (w.ahead dx dy (n + 1))) : w.IsFree (w.ahead dx dy steps) := by
  cases steps with
  | zero => exact ahead_zero w dx dy ▸ placed.player_free
  | succ steps => exact free steps (Nat.lt_succ_self steps)

/-- Free cells ahead are taken one after the other. -/
theorem WellPlaced.walk_of_clear (placed : w.WellPlaced) (unit : dx.natAbs + dy.natAbs = 1)
    {steps : Nat} (free : ∀ n < steps, w.IsFree (w.ahead dx dy (n + 1))) (more taken : Nat) :
    w.walk dx dy (steps + more) taken =
      (w.placePlayer (w.ahead dx dy steps)).walk dx dy more (taken + steps) := by
  induction steps generalizing more with
  | zero => rw [ahead_zero, Nat.zero_add, Nat.add_zero]; rfl
  | succ steps ih =>
    have earlier : ∀ n < steps, w.IsFree (w.ahead dx dy (n + 1)) :=
      fun n before => free n (Nat.lt_succ_of_lt before)
    have last : w.IsFree ((w.ahead dx dy steps).plus dx dy) :=
      ahead_succ w dx dy steps ▸ free steps (Nat.lt_succ_self steps)
    have reached : (w.placePlayer (w.ahead dx dy steps)).WellPlaced :=
      placed.thin ⟨rfl, rfl, rfl, .refl _, .refl _⟩ (placed.isFree_ahead earlier)
    rw [Nat.succ_add_eq_add_succ, ih earlier, ahead_succ]
    exact reached.walk_of_free unit last more (taken + steps)

def walkedTo (w : World) (m : Move) (p : Position) : World :=
  { w with player := { w.player with position := p }, aura := decide (1 < m.count) }

section Move

variable {m : Move} (placed : w.WellPlaced) (steady : w.efficient = false)
  (unit : m.dx.natAbs + m.dy.natAbs = 1) (clear : w.Clear m.dx m.dy k)

include placed steady unit clear

omit placed unit clear in
theorem move_eq_walk :
    w.move m = World.walk m.dx m.dy m.repeats 0 { w with aura := decide (1 < m.count) } := by
  have aura : (decide (m.count > 1) || w.efficient) = decide (1 < m.count) := by simp [steady]
  rw [move, aura]

omit steady unit clear in
theorem WellPlaced.withAura (aura : Bool) : WellPlaced { w with aura } :=
  placed.thin ⟨rfl, rfl, rfl, .refl _, .refl _⟩ placed.player_free

theorem WellPlaced.move_of_le (enough : m.repeats ≤ k) :
    w.move m = (⟨m.repeats, none⟩, w.walkedTo m (w.ahead m.dx m.dy m.repeats)) := by
  have free : ∀ n < m.repeats, w.IsFree (w.ahead m.dx m.dy (n + 1)) :=
    fun n before => clear.free n (Nat.lt_of_lt_of_le before enough)
  have taken := (placed.withAura (decide (1 < m.count))).walk_of_clear unit free 0 0
  rw [Nat.add_zero, Nat.zero_add] at taken
  rw [move_eq_walk steady]
  exact taken

theorem WellPlaced.move_of_lt (further : k < m.repeats) {stop : Stop}
    (meets : w.Meets (w.ahead m.dx m.dy (k + 1)) stop) :
    w.move m = (⟨k, some stop⟩, (w.walkedTo m (w.ahead m.dx m.dy k)).halt stop) := by
  have same : SameMap w (w.walkedTo m (w.ahead m.dx m.dy k)) := ⟨rfl, rfl, rfl, rfl, rfl⟩
  have reached := placed.thin same.thins (placed.isFree_ahead clear.free)
  obtain ⟨more, beyond⟩ := Nat.exists_eq_add_of_lt further
  have taken :=
    (placed.withAura (decide (1 < m.count))).walk_of_clear unit clear.free (more + 1) 0
  rw [ahead_succ] at meets
  rw [move_eq_walk steady, beyond]
  refine taken.trans ?_
  rw [Nat.zero_add]
  exact reached.walk_of_meets unit (same.meets meets) more k

theorem WellPlaced.move_strides : Strides w m k (w.move m) := by
  by_cases enough : m.repeats ≤ k
  · rw [placed.move_of_le steady unit clear enough]
    refine ⟨(Nat.min_eq_left enough).symm, by simp [enough], fun stop => ?_, ?_⟩
    · simp [Nat.not_lt.mpr enough]
    · simp [walkedTo, Nat.min_eq_left enough]
  · have further := Nat.not_le.mp enough
    obtain ⟨stop, meets⟩ := exists_meets clear.barred
    have ended := placed.move_of_lt steady unit clear further meets
    rw [ended]
    refine ⟨(Nat.min_eq_right (Nat.le_of_lt further)).symm, by simp [enough], fun other => ?_, ?_⟩
    · constructor
      · rintro ⟨⟩
        exact ⟨further, meets⟩
      · rintro ⟨-, meets'⟩
        have ended' := placed.move_of_lt steady unit clear further meets'
        rw [ended] at ended'
        exact congrArg (fun walked => walked.1.stop) ended'
    · rw [halt_eq_told]
      simp [walkedTo, Nat.min_eq_right (Nat.le_of_lt further)]

end Move
end Straight

end World
end GridRunner
