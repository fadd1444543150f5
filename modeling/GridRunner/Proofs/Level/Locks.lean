import GridRunner.Proofs.Level.Markers

/-! # Letters of locks

A lock opens to the letter with which the lowercase form of its glyph begins.  Every form that the
tables have begins with a lowercase character (`isLower_lower_iff`), which is a key on a map.  Some
uppercase characters have no form, and a lock written with one opens to its own glyph, which is a
lock and no key (`ofGlyph?_letter_iff`).
-/

namespace GridRunner

namespace Letter

/-! ## Where lowercase forms begin -/

def Run.points (r : Run) : List Nat :=
  (List.range ((r.last - r.first) / r.step + 1)).map fun k => r.first + k * r.step

theorem Run.mem_points {r : Run} {n : Nat} (h : r.mem n = true) : n ∈ r.points := by
  simp only [mem, Bool.and_eq_true, decide_eq_true_eq, beq_iff_eq] at h
  obtain ⟨⟨above, below⟩, even⟩ := h
  refine List.mem_map.mpr ⟨(n - r.first) / r.step, List.mem_range.mpr ?_, ?_⟩
  · exact Nat.lt_succ_of_le (Nat.div_le_div_right (by omega))
  · rw [Nat.div_mul_cancel (Nat.dvd_of_mod_eq_zero even)]
    omega

/-- The run begins and ends on such sides of the bounds that it can have a point between them. -/
def Run.meets (low high : Nat) (r : Run) : Bool := Nat.ble r.first high && Nat.ble low r.last

def Shifted.landing (r : Shifted) (n : Nat) : Nat := (n + r.shift).toNat

/-- The lowercase forms of the run begin with lowercase code points. -/
def Shifted.lands (r : Shifted) : Bool :=
  let near := lowercase.filter (Run.meets (r.landing r.first) (r.landing r.last))
  r.points.all fun n => near.any (·.mem (r.landing n))

theorem lowered_lands : lowered.all Shifted.lands = true := by
  -- Few runs are near another, so each code point is looked up in a short list.
  decide +kernel

theorem lowercase_scalar :
    (lowercase.all fun r => Nat.blt r.last 0xd800 ||
      (Nat.ble 0xe000 r.first && Nat.blt r.last 0x110000)) = true := by
  decide +kernel

theorem isValidChar_of_lowercase {r : Run} (listed : r ∈ lowercase) {n : Nat}
    (h : r.mem n = true) : n.isValidChar := by
  have scalar := List.all_eq_true.mp lowercase_scalar r listed
  simp only [Bool.or_eq_true, Bool.and_eq_true, Nat.blt_eq, Nat.ble_eq] at scalar
  simp only [Run.mem, Bool.and_eq_true, decide_eq_true_eq] at h
  unfold Nat.isValidChar
  omega

/-- A lowercase form in the tables begins with a lowercase character. -/
theorem isLower_lower_of_find? {c : Char} {r : Shifted}
    (found : lowered.find? (·.mem c.toNat) = some r) : isLower (lower c) = true := by
  have lands := List.all_eq_true.mp lowered_lands r (List.mem_of_find?_eq_some found)
  have inside := List.find?_some found
  obtain ⟨b, near, landed⟩ :=
    List.any_eq_true.mp (List.all_eq_true.mp lands _ (Run.mem_points inside))
  have listed := (List.mem_filter.mp near).1
  have valid := isValidChar_of_lowercase listed landed
  have form : lower c = Char.ofNat (r.landing c.toNat) := by
    rw [lower, found]
    rfl
  have code : (lower c).toNat = r.landing c.toNat := by
    rw [form, Char.ofNat, dif_pos valid]
    rfl
  rw [isLower, code]
  exact List.any_eq_true.mpr ⟨b, listed, landed⟩

/-- An uppercase character has a lowercase form exactly if it is not its own. -/
theorem isLower_lower_iff {c : Char} (upper : isUpper c = true) :
    isLower (lower c) = true ↔ lower c ≠ c := by
  constructor
  · intro begins same
    rw [same] at begins
    rw [not_isUpper_of_isLower begins] at upper
    cases upper
  · intro other
    cases found : lowered.find? (·.mem c.toNat) with
    | none =>
      rw [lower, found] at other
      exact absurd rfl other
    | some r => exact isLower_lower_of_find? found

end Letter

/-! ## Locks of a level -/

/-- What a level places as a lock shows an uppercase glyph and opens to where the lowercase form of
the glyph begins. -/
theorem Level.lock_of_mem_layout {rules : Rules} {level : Level} {layout : Layout}
    (read : level.layout rules = .ok layout) {e : Entity} (member : e ∈ layout.fixtures)
    {letter : Char} (lock : e.kind = .lock letter) :
    Letter.isUpper e.symbol = true ∧ e.symbol ∉ Marker.reserved ∧
      letter = Letter.lower e.symbol := by
  obtain ⟨-, player, -, rfl⟩ := layout_eq_ok_iff.mp read
  obtain ⟨p, c, -, placed⟩ := Grid.mem_fixtures_iff.mp member
  rcases placed with ⟨-, rfl⟩ | ⟨-, rfl⟩ | ⟨-, rfl⟩ | ⟨upper, unlisted, rfl⟩
  · cases lock
  · cases lock
  · cases lock
  · cases lock
    exact ⟨upper, unlisted, rfl⟩

/-- The letter of a lock is a key on a map exactly if it is not the glyph of the lock itself. -/
theorem Marker.ofGlyph?_letter_iff {glyph : Char} (upper : Letter.isUpper glyph = true) :
    ofGlyph? (Letter.lower glyph) = some (.key (Letter.lower glyph)) ↔
      Letter.lower glyph ≠ glyph := by
  rw [ofGlyph?_eq_key_iff, Letter.isLower_lower_iff upper]
  simp only [and_true]

end GridRunner
