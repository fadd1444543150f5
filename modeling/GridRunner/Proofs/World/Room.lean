import GridRunner.Proofs.World.Stops

/-! # The room for a walk

A step that does not leave the player in place brings one coordinate or both nearer to the edge
they move to, and takes neither away from it.  So no walk takes as many steps as the longer side of
the grid has cells, and a walk of that many or more is settled before it is used up (`Settles`).
That is so as long as its sums stay in range (`SumsFit`), which only steps of an immense length
endanger.
-/

namespace GridRunner

/-- How far a coordinate below `extent` can still move in a direction. -/
def roomAlong (extent : Nat) (x d : Int) : Nat :=
  if 0 < d then (extent - 1 - x).toNat else if d < 0 then x.toNat else 0

namespace World

/-- How many steps the edges leave to the player. -/
def room (w : World) (dx dy : Int) : Nat :=
  max (roomAlong w.width w.player.position.x dx) (roomAlong w.height w.player.position.y dy)

/-- No sum that a walk makes leaves the range of 32 bits. -/
def SumsFit (dx dy : Int) : Nat → World → Prop
  | 0, _ => True
  | repeats + 1, w =>
      (w.player.position.plus dx dy).Fits ∧
        (w.stopAt? (w.target dx dy) = none →
          SumsFit dx dy repeats (w.placePlayer (w.target dx dy)))

/-- What every walk comes to that is longer than some number of steps. -/
def Settles (w : World) (dx dy : Int) (steps : Nat) : Prop :=
  ∃ taken ≤ steps, ∃ stop after, ∀ repeats already, steps < repeats →
    w.walk dx dy repeats already = (⟨already + taken, some stop⟩, after)

variable {w : World} {dx dy : Int}

/-! ## Sums in range -/

theorem SumsFit.of_le {repeats fewer : Nat} (h : SumsFit dx dy repeats w) (le : fewer ≤ repeats) :
    SumsFit dx dy fewer w := by
  induction fewer generalizing repeats w with
  | zero => trivial
  | succ fewer ih =>
    obtain ⟨repeats, rfl⟩ := Nat.exists_eq_add_of_le' (Nat.zero_lt_of_lt le)
    exact ⟨h.1, fun free => ih (h.2 free) (Nat.le_of_succ_le_succ le)⟩

/-- Neither the aura nor the keystrokes matter to a walk. -/
theorem SumsFit.same {repeats : Nat} (h : SumsFit dx dy repeats w) (aura : Bool)
    (keystrokes : Nat) : SumsFit dx dy repeats { w with aura, keystrokes } := by
  induction repeats generalizing w with
  | zero => trivial
  | succ repeats ih => exact ⟨h.1, fun free => ih (h.2 free)⟩

theorem WellPlaced.sumsFit (placed : w.WellPlaced) (across : dx.natAbs ≤ 2147483392)
    (down : dy.natAbs ≤ 2147483392) (repeats : Nat) : SumsFit dx dy repeats w := by
  induction repeats generalizing w with
  | zero => trivial
  | succ repeats ih =>
    refine ⟨placed.fits_plus placed.player_inside across down, fun free => ?_⟩
    obtain ⟨-, entered⟩ := stopAt?_eq_none_iff.mp free
    exact ih (placed.thin ⟨rfl, rfl, rfl, .refl _, .refl _⟩ (entered.isFree placed.apart))

/-! ## One step -/

/-- Moving a coordinate as far as the edge admits. -/
theorem roomAlong_clamp {extent : Nat} {x reached d : Int} (low : 0 ≤ x) (high : x < extent)
    (clamped : max 0 (min (x + d) (extent - 1 : Nat)) = reached) :
    roomAlong extent reached d ≤ roomAlong extent x d - 1 ∧
      (reached ≠ x → 0 < roomAlong extent x d) := by
  unfold roomAlong
  constructor
  · split <;> [skip; split] <;> omega
  · intro moved
    split <;> [skip; split] <;> omega

theorem roomAlong_lt {extent : Nat} {x : Int} (low : 0 ≤ x) (high : x < extent) (d : Int) :
    roomAlong extent x d < extent := by
  unfold roomAlong
  split <;> [skip; split] <;> omega

theorem room_lt (inside : w.contains w.player.position = true) (dx dy : Int) :
    w.room dx dy < max w.width w.height := by
  obtain ⟨left, above, right, below⟩ := contains_iff.mp inside
  have across := roomAlong_lt left right dx
  have down := roomAlong_lt above below dy
  unfold room
  omega

/-- A step that moves the player leaves less room. -/
theorem room_placePlayer_lt (inside : w.contains w.player.position = true)
    (fits : (w.player.position.plus dx dy).Fits) (moved : w.target dx dy ≠ w.player.position) :
    (w.placePlayer (w.target dx dy)).room dx dy < w.room dx dy := by
  rw [target, Position.shift_of_fits fits] at moved ⊢
  generalize clamped : w.clamp (w.player.position.plus dx dy) = cell at moved ⊢
  obtain ⟨left, above, right, below⟩ := contains_iff.mp inside
  obtain ⟨lessX, freeX⟩ := roomAlong_clamp left right (congrArg Position.x clamped)
  obtain ⟨lessY, freeY⟩ := roomAlong_clamp above below (congrArg Position.y clamped)
  have free : 0 < roomAlong w.width w.player.position.x dx ∨
      0 < roomAlong w.height w.player.position.y dy := by
    by_contra none
    rw [not_or] at none
    have sameX := not_not.mp (mt freeX none.1)
    have sameY := not_not.mp (mt freeY none.2)
    exact moved (congrArg₂ Position.mk sameX sameY)
  have placed : (w.placePlayer cell).room dx dy =
      max (roomAlong w.width cell.x dx) (roomAlong w.height cell.y dy) := rfl
  rw [placed, room]
  omega

/-! ## A whole walk -/

theorem settles_room (inside : w.contains w.player.position = true)
    (fits : SumsFit dx dy (w.room dx dy + 1) w) : w.Settles dx dy (w.room dx dy) := by
  induction left : w.room dx dy using Nat.strongRecOn generalizing w with
  | _ steps ih =>
    cases stopped : w.stopAt? (w.target dx dy) with
    | some stop =>
      refine ⟨0, Nat.zero_le _, stop, w.halt stop, fun repeats already further => ?_⟩
      obtain ⟨n, rfl⟩ := Nat.exists_eq_add_of_lt further
      simp only [walk, stopped, Nat.add_zero]
    | none =>
      obtain ⟨moved, entered⟩ := stopAt?_eq_none_iff.mp stopped
      have less : (w.placePlayer (w.target dx dy)).room dx dy < w.room dx dy :=
        room_placePlayer_lt inside fits.1 moved
      have inside' : (w.placePlayer (w.target dx dy)).contains (w.target dx dy) = true :=
        contains_of_isFloor entered.1
      obtain ⟨taken, most, stop, after, settled⟩ :=
        ih _ (left ▸ less) (w := w.placePlayer (w.target dx dy)) inside'
          ((fits.2 stopped).of_le less) rfl
      refine ⟨taken + 1, Nat.lt_of_le_of_lt most (left ▸ less), stop, after,
        fun repeats already further => ?_⟩
      obtain ⟨n, rfl⟩ := Nat.exists_eq_add_of_lt further
      have enough : (w.placePlayer (w.target dx dy)).room dx dy < steps + n :=
        Nat.lt_add_right n (left ▸ less)
      simp only [walk, stopped, settled (steps + n) (already + 1) enough]
      rw [Nat.add_assoc, Nat.add_comm 1]

/-- A walk takes no more steps than it has repeats. -/
theorem steps_walk_le (repeats already : Nat) :
    (w.walk dx dy repeats already).1.steps ≤ already + repeats := by
  induction repeats generalizing w already with
  | zero => exact Nat.le_refl _
  | succ repeats ih =>
    rw [walk]
    cases w.stopAt? (w.target dx dy) with
    | some stop => exact Nat.le_add_right _ _
    | none =>
      have later := ih (w := w.placePlayer (w.target dx dy)) (already + 1)
      dsimp only
      omega

theorem steps_walk_le_room (inside : w.contains w.player.position = true) {repeats : Nat}
    (fits : SumsFit dx dy repeats w) (already : Nat) :
    (w.walk dx dy repeats already).1.steps ≤ already + w.room dx dy := by
  by_cases short : repeats ≤ w.room dx dy
  · exact Nat.le_trans (steps_walk_le repeats already) (Nat.add_le_add_left short already)
  · have long := Nat.not_le.mp short
    obtain ⟨taken, most, stop, after, settled⟩ := settles_room inside (fits.of_le long)
    rw [settled repeats already long]
    exact Nat.add_le_add_left most already

/-! ## Moves -/

section Moves

variable (inside : w.contains w.player.position = true)

include inside

theorem steps_move_lt {m : Move} (fits : SumsFit m.dx m.dy m.repeats w) :
    (w.move m).1.steps < max w.width w.height := by
  have most := steps_walk_le_room (w := { w with aura := decide (m.count > 1) || w.efficient })
    inside (fits.same _ w.keystrokes) 0
  rw [Nat.zero_add] at most
  exact Nat.lt_of_le_of_lt most (room_lt inside m.dx m.dy)

/-- Moves that are long enough to meet something do the same, but for the aura. -/
theorem move_eq_of_long {count count' repeats repeats' : Nat}
    (fits : SumsFit dx dy repeats w) (counted : 1 < count ↔ 1 < count')
    (long : max w.width w.height ≤ repeats) (long' : max w.width w.height ≤ repeats') :
    w.move ⟨dx, dy, count, repeats⟩ = w.move ⟨dx, dy, count', repeats'⟩ ∧
      (w.move ⟨dx, dy, count, repeats⟩).1.stop ≠ none := by
  have near := Nat.lt_of_lt_of_le (room_lt inside dx dy) long
  have near' := Nat.lt_of_lt_of_le (room_lt inside dx dy) long'
  have aura : decide (count > 1) = decide (count' > 1) := decide_eq_decide.mpr counted
  obtain ⟨taken, -, stop, after, settled⟩ :=
    settles_room (w := { w with aura := decide (count > 1) || w.efficient }) inside
      ((fits.of_le near).same _ w.keystrokes)
  have first := settled repeats 0 near
  have second := settled repeats' 0 near'
  unfold move
  dsimp only
  rw [← aura, first, second]
  exact ⟨rfl, by simp⟩

/-- The limit of counts is out of reach. -/
theorem move_walk_capped (small : max w.width w.height ≤ countLimit) {motion : Motion}
    {count : Nat} {jump : Int32}
    (fits : SumsFit (motion.walk count jump).dx (motion.walk count jump).dy
      (motion.walk count jump).repeats w) :
    w.move (motion.walk (capped count) jump) = w.move (motion.walk count jump) := by
  by_cases within : count ≤ countLimit
  · rw [capped, Nat.min_eq_left within]
  · have beyond := Nat.le_of_not_le within
    rw [capped, Nat.min_eq_right beyond]
    have counted : 1 < count ↔ 1 < countLimit := by
      unfold countLimit at beyond ⊢
      omega
    have same {dx dy : Int} (fits : SumsFit dx dy count w) :
        w.move (.counted dx dy countLimit) = w.move (.counted dx dy count) :=
      (move_eq_of_long inside fits counted (Nat.le_trans small beyond) small).1.symm
    cases motion with
    | lineStart | lineEnd => rfl
    | left | down | up | right | wordForward | wordBackward => exact same fits

theorem stop_sweep (small : max w.width w.height ≤ Rules.maxExtent) {dx : Int}
    (fits : SumsFit dx 0 Rules.maxExtent w) : (w.move (.sweep dx)).1.stop ≠ none :=
  (move_eq_of_long inside fits Iff.rfl small small).2

end Moves

end World
end GridRunner
