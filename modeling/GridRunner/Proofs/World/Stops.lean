import GridRunner.Proofs.World.Placement

/-! # What stops a walk

A step to a cell beside the player is taken if that cell is free.  Otherwise the cell tells why the
walk ends there (`Meets`), and it tells one thing only, since no two entities share a cell.
-/

namespace GridRunner

def Stop.message? : Stop → Option String
  | .exit | .edge => none
  | .blocked name => some s!"Path blocked by: {name}"
  | .wall => some "Collided with boundary."

namespace World

/-! ## Single steps -/

theorem clamp_of_contains {w : World} {p : Position} (h : w.contains p = true) :
    w.clamp p = p := by
  obtain ⟨x, y⟩ := p
  have inside := contains_iff.mp h
  dsimp only at inside
  simp only [clamp, Position.mk.injEq]
  omega

/-- No step of a moderate length leaves the range of 32 bits from inside a grid. -/
theorem WellPlaced.fits_plus {w : World} (placed : w.WellPlaced) {p : Position}
    (inside : w.contains p = true) {dx dy : Int} (across : dx.natAbs ≤ 2147483392)
    (down : dy.natAbs ≤ 2147483392) : (p.plus dx dy).Fits := by
  have ⟨left, above, right, below⟩ := contains_iff.mp inside
  have width := placed.width_le
  have height := placed.height_le
  unfold Rules.maxExtent at width height
  dsimp only [Position.Fits, Position.plus]
  omega

theorem WellPlaced.target_of_unit {w : World} (placed : w.WellPlaced) {dx dy : Int}
    (unit : dx.natAbs + dy.natAbs = 1) :
    w.target dx dy = w.clamp (w.player.position.plus dx dy) := by
  rw [target, Position.shift_of_fits
    (placed.fits_plus placed.player_inside (by omega) (by omega))]

theorem plus_ne_of_unit (p : Position) {dx dy : Int} (unit : dx.natAbs + dy.natAbs = 1) :
    p.plus dx dy ≠ p := by
  obtain ⟨x, y⟩ := p
  simp only [Position.plus, ne_eq, Position.mk.injEq]
  omega

/-- A single step out of the grid stays where it is. -/
theorem clamp_plus_of_outside {w : World} {p : Position} (inside : w.contains p = true)
    {dx dy : Int} (unit : dx.natAbs + dy.natAbs = 1)
    (outside : w.contains (p.plus dx dy) = false) : w.clamp (p.plus dx dy) = p := by
  have sides : (dx = 1 ∧ dy = 0) ∨ (dx = -1 ∧ dy = 0) ∨ (dx = 0 ∧ dy = 1) ∨
      (dx = 0 ∧ dy = -1) := by omega
  rw [Bool.eq_false_iff, ne_eq, contains_iff] at outside
  rw [contains_iff] at inside
  obtain ⟨x, y⟩ := p
  dsimp only [Position.plus] at inside outside
  simp only [clamp, Position.plus, Position.mk.injEq]
  rcases sides with ⟨rfl, rfl⟩ | ⟨rfl, rfl⟩ | ⟨rfl, rfl⟩ | ⟨rfl, rfl⟩ <;> omega

theorem IsFree.admits {w : World} {p : Position} (h : w.IsFree p) : w.Admits p := by
  refine ⟨h.1, ?_⟩
  intro e found
  obtain ⟨member, here⟩ := mem_of_entityAt? found
  exact h.2 e member here

/-! ## Cells that stop a walk -/

/-- Why the player cannot stand on a cell. -/
inductive Meets (w : World) (p : Position) : Stop → Prop
  | edge : w.contains p = false → Meets w p .edge
  | exit {e : Entity} : e ∈ w.hostiles ++ w.fixtures → e.position = p → e.kind = .exit →
      Meets w p .exit
  | blocked {e : Entity} : e ∈ w.hostiles ++ w.fixtures → e.position = p →
      e.kind.isObstacle = true → Meets w p (.blocked e.name)
  | wall : w.contains p = true → w.isFloor p = false →
      (∀ e ∈ w.hostiles ++ w.fixtures, e.position = p → e.kind.barsWay = false) → Meets w p .wall

section Walks

variable {w : World} {dx dy : Int}

/-- A cell that is not free gives a reason. -/
theorem exists_meets {p : Position} (barred : ¬ w.IsFree p) : ∃ stop, w.Meets p stop := by
  by_cases held : ∃ e ∈ w.hostiles ++ w.fixtures, e.position = p ∧ e.kind.barsWay = true
  · obtain ⟨e, member, here, bars⟩ := held
    rw [Entity.Kind.barsWay, Bool.or_eq_true, beq_iff_eq] at bars
    cases bars with
    | inl obstacle => exact ⟨_, .blocked member here obstacle⟩
    | inr exit => exact ⟨_, .exit member here exit⟩
  · have bare : ∀ e ∈ w.hostiles ++ w.fixtures, e.position = p → e.kind.barsWay = false := by
      intro e member here
      exact Bool.eq_false_iff.mpr fun bars => held ⟨e, member, here, bars⟩
    cases within : w.contains p with
    | false => exact ⟨_, .edge within⟩
    | true =>
      have solid : w.isFloor p = false := Bool.eq_false_iff.mpr fun floor => barred ⟨floor, bare⟩
      exact ⟨_, .wall within solid bare⟩

/-- A cell that gives a reason is not free. -/
theorem Meets.barred {p : Position} {stop : Stop} (meets : w.Meets p stop) : ¬ w.IsFree p := by
  intro free
  cases meets with
  | edge outside =>
    rw [contains_of_isFloor free.1] at outside
    cases outside
  | exit member here exit =>
    have passes := free.2 _ member here
    rw [exit] at passes
    cases passes
  | blocked member here obstacle =>
    have passes := free.2 _ member here
    rw [Entity.Kind.barsWay, obstacle] at passes
    cases passes
  | wall _ solid _ =>
    rw [free.1] at solid
    cases solid

/-- A walk stops at the cell beside the player for the reason that the cell gives. -/
theorem WellPlaced.stopAt?_of_meets (placed : w.WellPlaced) (unit : dx.natAbs + dy.natAbs = 1)
    {stop : Stop} (meets : w.Meets (w.player.position.plus dx dy) stop) :
    w.stopAt? (w.target dx dy) = some stop := by
  have elsewhere := plus_ne_of_unit w.player.position unit
  have held {e : Entity} (member : e ∈ w.hostiles ++ w.fixtures)
      (here : e.position = w.player.position.plus dx dy) :
      w.target dx dy = w.player.position.plus dx dy ∧
        w.entityAt? (w.player.position.plus dx dy) = some e := by
    rw [← here]
    exact ⟨by rw [placed.target_of_unit unit, ← here, clamp_of_contains (placed.inside e member)],
      entityAt?_eq_some_of_mem placed.apart member⟩
  cases meets with
  | edge outside =>
    rw [placed.target_of_unit unit, clamp_plus_of_outside placed.player_inside unit outside,
      stopAt?, if_pos rfl]
  | exit member here exit =>
    obtain ⟨aimed, found⟩ := held member here
    simp only [aimed, stopAt?, if_neg elsewhere, found, if_pos exit]
  | blocked member here obstacle =>
    obtain ⟨aimed, found⟩ := held member here
    rename_i e
    have notExit : e.kind ≠ .exit := by
      intro exit
      rw [exit] at obstacle
      cases obstacle
    simp only [aimed, stopAt?, if_neg elsewhere, found, if_neg notExit, if_pos obstacle]
  | wall within solid bare =>
    rw [placed.target_of_unit unit, clamp_of_contains within]
    cases found : w.entityAt? (w.player.position.plus dx dy) with
    | none => simp [stopAt?, elsewhere, found, solid]
    | some e =>
      obtain ⟨member, here⟩ := mem_of_entityAt? found
      have passes := bare e member here
      rw [Entity.Kind.barsWay, Bool.or_eq_false_iff, beq_eq_false_iff_ne] at passes
      simp [stopAt?, elsewhere, found, solid, passes]

/-! ## One step of a walk -/

/-- A single step onto a free cell is taken. -/
theorem WellPlaced.walk_of_free (placed : w.WellPlaced) (unit : dx.natAbs + dy.natAbs = 1)
    (free : w.IsFree (w.player.position.plus dx dy)) (repeats taken : Nat) :
    w.walk dx dy (repeats + 1) taken =
      (w.placePlayer (w.player.position.plus dx dy)).walk dx dy repeats (taken + 1) := by
  have aimed : w.target dx dy = w.player.position.plus dx dy := by
    rw [placed.target_of_unit unit, clamp_of_contains (contains_of_isFloor free.1)]
  have unstopped : w.stopAt? (w.player.position.plus dx dy) = none :=
    stopAt?_eq_none_iff.mpr ⟨plus_ne_of_unit _ unit, free.admits⟩
  simp only [walk, aimed, unstopped]

theorem WellPlaced.walk_of_meets (placed : w.WellPlaced) (unit : dx.natAbs + dy.natAbs = 1)
    {stop : Stop} (meets : w.Meets (w.player.position.plus dx dy) stop) (repeats taken : Nat) :
    w.walk dx dy (repeats + 1) taken = (⟨taken, some stop⟩, w.halt stop) := by
  simp only [walk, placed.stopAt?_of_meets unit meets]

end Walks

theorem halt_eq_told (w : World) (stop : Stop) :
    w.halt stop =
      { w with
        complete := w.complete || decide (stop = .exit)
        log := stop.message?.elim w.log w.log.push } := by
  cases stop <;> simp [halt, note, Stop.message?]

end World
end GridRunner
