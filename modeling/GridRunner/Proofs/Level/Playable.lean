import GridRunner.Proofs.Level.Marks
import Mathlib.Data.List.Basic

/-! # Maps that can be played

A map is accepted exactly when it is a nonempty rectangle of bounded extent with one player
marker, whatever the rules.  The layout of an accepted map is read off its marked cells.
-/

namespace GridRunner

namespace Entity.Kind

def IsFoe (kind : Kind) : Prop := kind = .enemy ∨ kind = .boss

theorem IsFoe.isHostile {kind : Kind} (h : kind.IsFoe) : kind.isHostile = true := by
  rcases h with rfl | rfl <;> rfl

def IsFixture (kind : Kind) : Prop :=
  (∃ letter, kind = .key letter) ∨ (∃ letter, kind = .lock letter) ∨ kind = .rubble ∨ kind = .exit

end Entity.Kind

/-! ## What a marker places -/

namespace Marker

theorem ofGlyph?_eq_player_iff {glyph : Char} : ofGlyph? glyph = some .player ↔ glyph = '@' := by
  constructor
  · intro h
    unfold ofGlyph? at h
    split at h
    · rfl
    · cases h
    · cases h
    · cases h
    · cases h
    · split at h
      · cases h
      · split at h <;> cases h
  · rintro rfl
    rfl

theorem hostile?_eq_some {rules : Rules} {p : Position} {m : Marker} {e : Entity}
    (h : m.hostile? rules p = some e) :
    e.position = p ∧ e.kind.IsFoe ∧ (m = .enemy ∨ m = .boss) := by
  cases m <;> cases h
  · exact ⟨rfl, Or.inl rfl, Or.inl rfl⟩
  · exact ⟨rfl, Or.inr rfl, Or.inr rfl⟩

theorem fixture?_eq_some {p : Position} {m : Marker} {e : Entity} (h : m.fixture? p = some e) :
    e.position = p ∧ e.kind.IsFixture ∧ m ≠ .enemy ∧ m ≠ .boss ∧ m ≠ .player := by
  cases m <;> cases h
  · exact ⟨rfl, Or.inr (Or.inr (Or.inr rfl)), by simp⟩
  · exact ⟨rfl, Or.inr (Or.inr (Or.inl rfl)), by simp⟩
  · exact ⟨rfl, Or.inl ⟨_, rfl⟩, by simp⟩
  · exact ⟨rfl, Or.inr (Or.inl ⟨_, rfl⟩), by simp⟩

end Marker

/-! ## The shape of a map -/

namespace Grid

/-- A nonempty rectangle of bounded extent with one player marker. -/
structure Playable (g : Grid) : Prop where
  width_pos : 0 < g.width
  width_le : g.width ≤ Rules.maxExtent
  height_le : g.height ≤ Rules.maxExtent
  rectangular : ∀ row ∈ g, row.length = g.width
  one_player : g.flatten.count '@' = 1

instance (g : Grid) : Decidable g.Playable :=
  decidable_of_iff
    (0 < g.width ∧ g.width ≤ Rules.maxExtent ∧ g.height ≤ Rules.maxExtent ∧
      (∀ row ∈ g, row.length = g.width) ∧ g.flatten.count '@' = 1)
    ⟨fun ⟨a, b, c, d, e⟩ => ⟨a, b, c, d, e⟩, fun ⟨a, b, c, d, e⟩ => ⟨a, b, c, d, e⟩⟩

theorem height_pos_of_width_pos {g : Grid} (h : 0 < g.width) : 0 < g.height := by
  cases g with
  | nil => cases h
  | cons row rest => exact Nat.succ_pos _

theorem rectangular_bare {g : Grid} {width : Nat} (h : ∀ row ∈ g, row.length = width) :
    ∀ row ∈ g.bare, row.length = width := by
  intro row hrow
  obtain ⟨original, horiginal, rfl⟩ := List.mem_map.mp hrow
  rw [List.length_map]
  exact h original horiginal

/-- The player starts on one of the cells marked `@`, which are listed row by row. -/
theorem spawns_eq (g : Grid) :
    g.spawns = (g.cells.filter fun cell => cell.2 == '@').map fun cell => cell.1 := by
  rw [spawns, marks, List.filterMap_filterMap, ← List.filterMap_eq_map, ← List.filterMap_eq_filter,
    List.filterMap_filterMap]
  apply List.filterMap_congr
  rintro ⟨p, glyph⟩ -
  by_cases h : glyph = '@'
  · subst h
    rfl
  · have other : ∀ m, Marker.ofGlyph? glyph = some m → m ≠ .player := by
      rintro m hm rfl
      exact h (Marker.ofGlyph?_eq_player_iff.mp hm)
    simpa [h, Option.guard] using other

theorem length_spawns (g : Grid) : g.spawns.length = g.flatten.count '@' := by
  rw [spawns_eq, List.length_map, ← List.countP_eq_length_filter, ← map_snd_cells, List.count,
    List.countP_map]
  rfl

end Grid

/-! ## The layout of a map -/

namespace Level

theorem ragged?_eq_none_iff {width : Nat} {g : Grid} :
    ragged? width g = none ↔ ∀ row ∈ g, row.length = width := by
  rw [ragged?, List.find?_eq_none]
  constructor
  · intro h row hrow
    obtain ⟨y, hy⟩ := List.getElem?_of_mem hrow
    simpa using h (row, y) (List.mk_mem_zipIdx_iff_getElem?.mpr hy)
  · rintro h ⟨row, y⟩ hrow
    simpa using h row (List.fst_mem_of_mem_zipIdx hrow)

def layoutFrom (rules : Rules) (map : Grid) (player : Position) : Layout where
  tiles := map.bare
  width := map.width
  height := map.height
  player := player
  hostiles := map.marks.filterMap fun (position, marker) => marker.hostile? rules position
  fixtures := map.marks.filterMap fun (position, marker) => marker.fixture? position

theorem layout_eq_ok_iff {rules : Rules} {level : Level} {layout : Layout} :
    level.layout rules = .ok layout ↔
      level.map.Playable ∧ ∃ player, level.map.spawns = [player] ∧
        layout = layoutFrom rules level.map player := by
  constructor
  · intro h
    simp only [Level.layout] at h
    split at h
    · cases h
    · rename_i width_ne
      split at h
      · cases h
      · rename_i extent
        split at h
        · cases h
        · rename_i even
          split at h
          · cases h
          · cases h
          · rename_i player hspawns
            cases h
            refine ⟨⟨by omega, by omega, by omega, ragged?_eq_none_iff.mp even, ?_⟩, player,
              hspawns, rfl⟩
            rw [← Grid.length_spawns, hspawns]
            rfl
  · rintro ⟨playable, player, hspawns, rfl⟩
    obtain ⟨width_pos, width_le, height_le, rectangular, -⟩ := playable
    simp only [Level.layout]
    rw [if_neg (by omega), if_neg (by omega), ragged?_eq_none_iff.mpr rectangular, hspawns]
    rfl

/-- Whether a map is accepted does not depend on the rules. -/
theorem exists_layout_iff {rules : Rules} {level : Level} :
    (∃ layout, level.layout rules = .ok layout) ↔ level.map.Playable := by
  constructor
  · rintro ⟨layout, h⟩
    exact (layout_eq_ok_iff.mp h).1
  · intro playable
    have one := playable.one_player
    rw [← Grid.length_spawns, List.length_eq_one_iff] at one
    obtain ⟨player, hspawns⟩ := one
    exact ⟨_, layout_eq_ok_iff.mpr ⟨playable, player, hspawns, rfl⟩⟩

theorem not_playable_of_fault {rules : Rules} {level : Level} {fault : Fault}
    (h : level.layout rules = .error fault) : ¬ level.map.Playable := by
  intro playable
  have accepted : ∃ layout, level.layout rules = .ok layout := exists_layout_iff.mpr playable
  obtain ⟨layout, read⟩ := accepted
  rw [h] at read
  cases read

end Level
end GridRunner
