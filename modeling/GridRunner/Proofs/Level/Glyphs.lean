import GridRunner.Proofs.Level.Playable

/-! # Glyphs by cell

A marker is written with the symbol of the entity that it places, so the map of an accepted level
tells what the level starts with, cell by cell.
-/

namespace GridRunner
namespace Grid

def glyph? (g : Grid) (p : Position) : Option Char :=
  if 0 ≤ p.x ∧ 0 ≤ p.y then g.at? p.x.toNat p.y.toNat else none

theorem glyph?_natCast (g : Grid) (x y : Nat) : g.glyph? ⟨x, y⟩ = g.at? x y := by
  rw [glyph?, if_pos ⟨Int.natCast_nonneg x, Int.natCast_nonneg y⟩]
  rfl

/-- Grids of one height that show the same on every cell are the same. -/
theorem ext_glyph? {g g' : Grid} (height : g.length = g'.length)
    (same : ∀ p, g.glyph? p = g'.glyph? p) : g = g' := by
  refine List.ext_getElem height ?_
  intro y hy hy'
  refine List.ext_getElem? ?_
  intro x
  have cell := same ⟨x, y⟩
  rw [glyph?_natCast, glyph?_natCast, at?, at?, List.getElem?_eq_getElem hy,
    List.getElem?_eq_getElem hy'] at cell
  exact cell

theorem mem_cells_iff_glyph? {g : Grid} {p : Position} {glyph : Char} :
    (p, glyph) ∈ g.cells ↔ g.glyph? p = some glyph := by
  rw [mem_cells_iff]
  constructor
  · rintro ⟨x, y, rfl, cell⟩
    rw [glyph?_natCast, cell]
  · intro cell
    rw [glyph?, Option.ite_none_right_eq_some] at cell
    obtain ⟨⟨hx, hy⟩, cell⟩ := cell
    refine ⟨p.x.toNat, p.y.toNat, ?_, cell⟩
    rw [Int.toNat_of_nonneg hx, Int.toNat_of_nonneg hy]

theorem mem_spawns_iff_glyph? {g : Grid} {p : Position} :
    p ∈ g.spawns ↔ g.glyph? p = some '@' := by
  rw [mem_spawns_iff, mem_marks_iff]
  constructor
  · rintro ⟨glyph, cell, marker⟩
    rw [← Marker.ofGlyph?_eq_player_iff.mp marker]
    exact mem_cells_iff_glyph?.mp cell
  · intro cell
    exact ⟨'@', mem_cells_iff_glyph?.mpr cell, rfl⟩

theorem glyph?_bare (g : Grid) (p : Position) :
    g.bare.glyph? p =
      (g.glyph? p).map fun glyph => if (Marker.ofGlyph? glyph).isSome then floor else glyph := by
  by_cases nonneg : 0 ≤ p.x ∧ 0 ≤ p.y
  · rw [glyph?, glyph?, if_pos nonneg, if_pos nonneg, at?_bare]
  · rw [glyph?, glyph?, if_neg nonneg, if_neg nonneg]
    rfl

theorem map_length_bare (g : Grid) : g.bare.map List.length = g.map List.length := by
  simp [bare]

/-! ## Painting -/

theorem at?_paint (g : Grid) (x y x' y' : Nat) (c : Char) :
    (g.paint x y c).at? x' y' =
      if x = x' ∧ y = y' then (g.at? x' y').map fun _ => c else g.at? x' y' := by
  simp only [at?, paint, List.getElem?_modify]
  cases g[y']? with
  | none => simp
  | some row =>
    by_cases column : x = x'
    · by_cases line : y = y'
      · subst column line
        simp [List.getElem?_set_self', Function.const_def]
      · simp [column, line]
    · by_cases line : y = y'
      · simp [column, line]
      · simp [column, line]

theorem map_length_paint (g : Grid) (x y : Nat) (c : Char) :
    (g.paint x y c).map List.length = g.map List.length := by
  refine List.ext_getElem? ?_
  intro i
  simp only [paint, List.getElem?_map, List.getElem?_modify]
  cases g[i]? with
  | none => rfl
  | some row =>
    by_cases line : y = i
    · simp [line]
    · simp [line]

end Grid

namespace Marker

def glyph : Marker → Char
  | .player => '@'
  | .enemy => 'G'
  | .boss => 'B'
  | .exit => '>'
  | .rubble => 'R'
  | .key glyph | .lock glyph => glyph

theorem glyph_of_ofGlyph? {c : Char} {m : Marker} (h : ofGlyph? c = some m) : m.glyph = c := by
  unfold ofGlyph? at h
  split at h
  case h_6 =>
    split at h
    · cases h
      rfl
    · split at h
      · cases h
        rfl
      · cases h
  all_goals
    cases h
    rfl

theorem hostile?_symbol {rules : Rules} {p : Position} {m : Marker} {e : Entity}
    (h : m.hostile? rules p = some e) : e.symbol = m.glyph := by
  cases m <;> cases h <;> rfl

theorem fixture?_symbol {p : Position} {m : Marker} {e : Entity} (h : m.fixture? p = some e) :
    e.symbol = m.glyph := by
  cases m <;> cases h <;> rfl

/-- Every marker but the player's places an entity on its cell. -/
theorem places (rules : Rules) (p : Position) {m : Marker} (h : m ≠ .player) :
    ∃ e, e.position = p ∧ (m.hostile? rules p = some e ∨ m.fixture? p = some e) := by
  cases m with
  | player => exact absurd rfl h
  | enemy => exact ⟨_, rfl, Or.inl rfl⟩
  | boss => exact ⟨_, rfl, Or.inl rfl⟩
  | exit => exact ⟨_, rfl, Or.inr rfl⟩
  | rubble => exact ⟨_, rfl, Or.inr rfl⟩
  | key letter => exact ⟨_, rfl, Or.inr rfl⟩
  | lock glyph => exact ⟨_, rfl, Or.inr rfl⟩

end Marker

def Layout.Places (layout : Layout) (p : Position) : Prop :=
  ∃ e ∈ layout.hostiles ++ layout.fixtures, e.position = p

instance (layout : Layout) (p : Position) : Decidable (layout.Places p) :=
  inferInstanceAs (Decidable (∃ e ∈ layout.hostiles ++ layout.fixtures, e.position = p))

namespace Level

section Accepted

variable {rules : Rules} {level : Level} {layout : Layout}

theorem of_mem_layout (read : level.layout rules = .ok layout) {e : Entity}
    (h : e ∈ layout.hostiles ++ layout.fixtures) :
    level.map.glyph? e.position = some e.symbol ∧
      ∃ m, Marker.ofGlyph? e.symbol = some m ∧ m ≠ .player := by
  have marked : ∃ m, (e.position, m) ∈ level.map.marks ∧ e.symbol = m.glyph ∧ m ≠ .player := by
    obtain ⟨-, player, -, rfl⟩ := layout_eq_ok_iff.mp read
    cases List.mem_append.mp h with
    | inl hostile =>
      obtain ⟨⟨p, m⟩, mark, placed⟩ := List.mem_filterMap.mp hostile
      obtain ⟨rfl, -, foe⟩ := Marker.hostile?_eq_some placed
      refine ⟨m, mark, Marker.hostile?_symbol placed, ?_⟩
      rintro rfl
      simp at foe
    | inr fixture =>
      obtain ⟨⟨p, m⟩, mark, placed⟩ := List.mem_filterMap.mp fixture
      obtain ⟨rfl, -, -, -, other⟩ := Marker.fixture?_eq_some placed
      exact ⟨m, mark, Marker.fixture?_symbol placed, other⟩
  obtain ⟨m, mark, symbol, other⟩ := marked
  obtain ⟨glyph, cell, marker⟩ := Grid.mem_marks_iff.mp mark
  rw [symbol, Marker.glyph_of_ofGlyph? marker]
  exact ⟨Grid.mem_cells_iff_glyph?.mp cell, m, marker, other⟩

theorem glyph?_spawn (read : level.layout rules = .ok layout) :
    level.map.glyph? layout.player = some '@' := by
  obtain ⟨-, player, spawns, rfl⟩ := layout_eq_ok_iff.mp read
  exact Grid.mem_spawns_iff_glyph?.mp (by simp [spawns, layoutFrom])

theorem not_places_spawn (read : level.layout rules = .ok layout) :
    ¬ layout.Places layout.player := by
  rintro ⟨e, he, here⟩
  obtain ⟨cell, m, marker, other⟩ := of_mem_layout read he
  rw [here, glyph?_spawn read, Option.some.injEq] at cell
  rw [← cell] at marker
  exact other (Option.some.inj marker).symm

theorem places_of_mem_marks (read : level.layout rules = .ok layout) {p : Position} {m : Marker}
    (mark : (p, m) ∈ level.map.marks) (other : m ≠ .player) : layout.Places p := by
  obtain ⟨-, player, -, rfl⟩ := layout_eq_ok_iff.mp read
  obtain ⟨e, rfl, placed⟩ := Marker.places rules p other
  refine ⟨e, List.mem_append.mpr ?_, rfl⟩
  cases placed with
  | inl hostile => exact Or.inl (List.mem_filterMap.mpr ⟨_, mark, hostile⟩)
  | inr fixture => exact Or.inr (List.mem_filterMap.mpr ⟨_, mark, fixture⟩)

/-- A cell is marked exactly if the level starts with the player or an entity on it. -/
theorem isSome_ofGlyph?_iff (read : level.layout rules = .ok layout) {p : Position} {glyph : Char}
    (cell : level.map.glyph? p = some glyph) :
    (Marker.ofGlyph? glyph).isSome = true ↔ p = layout.player ∨ layout.Places p := by
  constructor
  · intro marked
    obtain ⟨m, marker⟩ := Option.isSome_iff_exists.mp marked
    have mark : (p, m) ∈ level.map.marks :=
      Grid.mem_marks_iff.mpr ⟨glyph, Grid.mem_cells_iff_glyph?.mpr cell, marker⟩
    by_cases spawn : m = .player
    · subst spawn
      obtain ⟨-, player, spawns, rfl⟩ := layout_eq_ok_iff.mp read
      rw [← Grid.mem_spawns_iff, spawns] at mark
      exact Or.inl (List.mem_singleton.mp mark)
    · exact Or.inr (places_of_mem_marks read mark spawn)
  · rintro (rfl | ⟨e, he, rfl⟩)
    · rw [glyph?_spawn read, Option.some.injEq] at cell
      rw [← cell]
      rfl
    · obtain ⟨cell', m, marker, -⟩ := of_mem_layout read he
      rw [cell, Option.some.injEq] at cell'
      rw [cell', marker]
      rfl

end Accepted
end Level
end GridRunner
