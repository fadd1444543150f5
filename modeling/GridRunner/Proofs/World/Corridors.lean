import GridRunner.Proofs.World.Deletes
import GridRunner.Proofs.World.Straight

/-! # Guarded corridors

Guards stand in a row between the player and the exit, and no two of them side by side.  A sweep
leads up to the first of them, where no other is in reach, so a delete that is long enough fells it
and leaves the same corridor with the others in it (`Corridor.sweep`, `Corridor.strike`).  Without
guards a sweep leads to the exit.
-/

namespace GridRunner
namespace World

/-- There is floor from the player to the exit, and nothing but the guards stands on it. -/
structure Corridor (w : World) (guards : List Entity) (goal : Position) : Prop where
  placed : w.WellPlaced
  steady : w.efficient = false
  incomplete : w.complete = false
  hostiles : w.hostiles = guards
  fixtures : w.fixtures = [.exit goal]
  row : w.player.position.y = goal.y
  short : w.player.position.x < goal.x
  floor : ∀ x, w.player.position.x < x → x < goal.x → w.isFloor ⟨x, goal.y⟩ = true
  posted : ∀ e ∈ guards, e.position.y = goal.y ∧ w.player.position.x < e.position.x ∧
    e.position.x < goal.x
  spaced : guards.Pairwise fun a b => a.position.x + 1 < b.position.x

/-- A delete that the one hostile in reach does not endure takes it away, and nobody else. -/
theorem delete_fells {rules : Rules} {w : World} {e : Entity} {rest : List Entity} {count : Nat}
    (hostiles : w.hostiles = e :: rest) (near : w.strikable e = true)
    (far : ∀ x ∈ rest, w.strikable x = false) (some : 1 ≤ count)
    (enough : e.hp - .ofNat count * w.strikeDamage rules ≤ 0) :
    (w.delete rules count).2.hostiles = rest := by
  have endures := w.delete_endures rules count
  have nobody : rest.filter w.strikable = [] := List.filter_eq_nil_iff.mpr fun x member => by
    simp [far x member]
  have others : (rest.filter fun x => !w.strikable x) = rest :=
    List.filter_eq_self.mpr fun x member => by simp [far x member]
  have most : stamina w.strikable (w.strikeDamage rules) w.hostiles ≤ (max count 1 : ℕ) := by
    rw [hostiles, stamina_cons_near near, stamina, nobody, Nat.max_eq_left some]
    simp only [List.map_nil, List.sum_nil, add_zero]
    exact iInf₂_le count ⟨some, enough⟩
  have cleared := (endures.cleared_iff fun _ _ => rfl).mpr most
  have kept := endures.far
  rw [hostiles, List.filter_cons_of_neg (by simp [near]), others] at kept
  rw [← kept]
  exact (List.filter_eq_self.mpr fun x member => by simp [cleared x member]).symm

namespace Corridor

variable {w : World} {e : Entity} {guards rest : List Entity} {goal : Position}

/-- A corridor is one as long as nobody moves in it. -/
theorem same (h : w.Corridor guards goal) {w' : World} (map : SameMap w w')
    (player : w'.player.position = w.player.position) (steady : w'.efficient = w.efficient)
    (incomplete : w'.complete = w.complete) : w'.Corridor guards goal where
  placed := h.placed.thin map.thins (player ▸ h.placed.player_free)
  steady := steady.trans h.steady
  incomplete := incomplete.trans h.incomplete
  hostiles := map.hostiles.trans h.hostiles
  fixtures := map.fixtures.trans h.fixtures
  row := by rw [player, h.row]
  short := by rw [player]; exact h.short
  floor := fun x after before => by
    rw [map.thins.isFloor_eq]
    exact h.floor x (player ▸ after) before
  posted := by rw [player]; exact h.posted
  spaced := h.spaced

/-- The cells in front of all guards are free. -/
theorem free (h : w.Corridor guards goal) {x : Int} (ahead : w.player.position.x ≤ x)
    (before : ∀ e ∈ guards, x < e.position.x) (short : x < goal.x) : w.IsFree ⟨x, goal.y⟩ := by
  by_cases here : w.player.position.x = x
  · rw [← here, ← h.row]
    exact h.placed.player_free
  · refine ⟨h.floor x (by omega) short, fun e member here => ?_⟩
    rw [h.hostiles, h.fixtures, List.mem_append, List.mem_singleton] at member
    rcases member with guard | rfl
    · have later := before e guard
      rw [here] at later
      exact absurd later (Int.lt_irrefl x)
    · rw [Entity.exit, Entity.fresh, Position.mk.injEq] at here
      omega

/-- A corridor is one from any cell in front of its guards. -/
theorem approach (h : w.Corridor guards goal) {x : Int} (ahead : w.player.position.x ≤ x)
    (before : ∀ e ∈ guards, x < e.position.x) (short : x < goal.x) (log : MessageLog) :
    Corridor
      { w with
        player := { w.player with position := ⟨x, goal.y⟩ }
        aura := false
        complete := false
        log } guards goal where
  placed := h.placed.thin ⟨rfl, rfl, rfl, .refl _, .refl _⟩ (h.free ahead before short)
  steady := h.steady
  incomplete := rfl
  hostiles := h.hostiles
  fixtures := h.fixtures
  row := rfl
  short
  floor := fun _ after => h.floor _ (Int.lt_of_le_of_lt ahead after)
  posted := fun e member =>
    have ⟨level, _, within⟩ := h.posted e member
    ⟨level, before e member, within⟩
  spaced := h.spaced

theorem hostile (h : w.Corridor (e :: rest) goal) : e.kind.isHostile = true :=
  (h.placed.foes e (by simp [h.hostiles])).isHostile

/-- The guards stand in order. -/
theorem first_le (h : w.Corridor (e :: rest) goal) :
    ∀ x ∈ e :: rest, e.position.x ≤ x.position.x := by
  obtain ⟨later, -⟩ := List.pairwise_cons.mp h.spaced
  refine List.forall_mem_cons.mpr ⟨Int.le_refl _, fun x member => ?_⟩
  have gap := later x member
  omega

/-- A sweep leads up to the first thing that bars the way. -/
theorem sweep_to (h : w.Corridor guards goal) {limit : Int} {stop : Stop}
    (first : ∀ e ∈ guards, limit ≤ e.position.x) (within : limit ≤ goal.x)
    (beyond : w.player.position.x < limit) (meets : w.Meets ⟨limit, goal.y⟩ stop) :
    ∃ log, (w.move (.sweep 1)).2 =
      { w with
        player := { w.player with position := ⟨limit - 1, goal.y⟩ }
        aura := false
        complete := decide (stop = .exit)
        log } := by
  obtain ⟨k, rfl⟩ := Int.lt.dest beyond
  have cell (n : Nat) : w.ahead 1 0 n = ⟨w.player.position.x + n, goal.y⟩ := by
    simp [ahead, Position.plus, h.row]
  have clear : w.Clear 1 0 k := by
    constructor
    case free =>
      intro n before
      rw [cell]
      refine h.free (by omega) (fun e member => ?_) (by omega)
      have later := first e member
      omega
    case barred =>
      rw [cell]
      exact meets.barred
  -- The exit is inside the grid, so the sweep is long enough.
  have exit := contains_iff.mp (h.placed.inside (.exit goal) (by simp [h.fixtures]))
  have player := contains_iff.mp h.placed.player_inside
  have width := h.placed.width_le
  dsimp only [Entity.exit, Entity.fresh] at exit
  have long : k < Rules.maxExtent := by omega
  have strides : w.Strides (.sweep 1) k (w.move (.sweep 1)) :=
    h.placed.move_strides h.steady rfl clear
  have stopped : (w.move (.sweep 1)).1.stop = some stop := by
    refine (strides.stopped stop).mpr ⟨long, ?_⟩
    exact (cell (k + 1)).symm ▸ meets
  have taken : min (Move.sweep 1).repeats k = k := Nat.min_eq_right (Nat.le_of_lt long)
  have before : w.player.position.x + (k.succ : Int) - 1 = w.player.position.x + k := by omega
  have world := strides.world
  rw [stopped, taken, h.incomplete, Bool.false_or] at world
  refine ⟨stop.message?.elim w.log w.log.push, ?_⟩
  have here : w.ahead (Move.sweep 1).dx (Move.sweep 1).dy k =
      ⟨w.player.position.x + (k.succ : Int) - 1, goal.y⟩ := before ▸ cell k
  rw [world, here]
  simp [Move.sweep]

/-- A sweep leads up to the first guard. -/
theorem sweep (h : w.Corridor (e :: rest) goal) :
    (w.move (.sweep 1)).2.Corridor (e :: rest) goal ∧
      (w.move (.sweep 1)).2.aura = false ∧
      (w.move (.sweep 1)).2.player.position.x + 1 = e.position.x := by
  obtain ⟨level, beyond, within⟩ := h.posted e List.mem_cons_self
  have first := h.first_le
  have here : e.position = ⟨e.position.x, goal.y⟩ := by rw [← level]
  have meets : w.Meets ⟨e.position.x, goal.y⟩ (.blocked e.name) :=
    .blocked (by simp [h.hostiles]) here (Entity.Kind.isObstacle_of_isHostile h.hostile)
  obtain ⟨log, swept⟩ := h.sweep_to first (Int.le_of_lt within) beyond meets
  have before : ∀ x ∈ e :: rest, e.position.x - 1 < x.position.x := by
    intro x member
    have later := first x member
    omega
  rw [swept]
  exact ⟨h.approach (by omega) before (by omega) log, rfl, by simp⟩

/-- A delete beside the first guard, long enough for it, opens the corridor up to the next. -/
theorem strike (h : w.Corridor (e :: rest) goal) {rules : Rules} {count : Nat}
    (beside : w.player.position.x + 1 = e.position.x) (some : 1 ≤ count)
    (enough : e.hp - .ofNat count * w.strikeDamage rules ≤ 0) :
    (w.delete rules count).2.Corridor rest goal := by
  obtain ⟨level, -, -⟩ := h.posted e List.mem_cons_self
  obtain ⟨later, spaced⟩ := List.pairwise_cons.mp h.spaced
  have row := h.row
  have near : w.strikable e = true := by
    rw [strikable, h.hostile, Bool.true_and, Position.reaches_iff]
    omega
  have far : ∀ x ∈ rest, w.strikable x = false := by
    intro x member
    have gap := later x member
    have reach : w.player.position.reaches x.position = false := by
      rw [Bool.eq_false_iff, ne_eq, Position.reaches_iff]
      omega
    rw [strikable, reach, Bool.and_false]
  have fells := delete_fells h.hostiles near far some enough
  obtain ⟨hostiles, log, fewer, after⟩ := w.delete_eq rules count
  rw [after] at fells ⊢
  exact {
    placed := h.placed.thin ⟨rfl, rfl, rfl, fewer, .refl _⟩ h.placed.player_free
    steady := h.steady
    incomplete := h.incomplete
    hostiles := fells
    fixtures := h.fixtures
    row := h.row
    short := h.short
    floor := h.floor
    posted := fun x member => h.posted x (List.mem_cons_of_mem e member)
    spaced }

/-- Without guards a sweep leads to the exit. -/
theorem leave (h : w.Corridor [] goal) : (w.move (.sweep 1)).2.complete = true := by
  have meets : w.Meets ⟨goal.x, goal.y⟩ .exit :=
    .exit (e := .exit goal) (by simp [h.fixtures]) rfl rfl
  obtain ⟨log, swept⟩ := h.sweep_to (by simp) (Int.le_refl _) h.short meets
  rw [swept]
  rfl

end Corridor
end World
end GridRunner
