import GridRunner.Level.Layout

/-! # The marked cells of a map

Every cell of a map is listed once, row by row and column by column within a row, so no two
markers share a cell.  The bare grid differs from the map exactly under the markers, where
it has floor.
-/

namespace GridRunner

namespace Position

/-- Row by row, and from left to right within a row. -/
def Before (p q : Position) : Prop := p.y < q.y ∨ (p.y = q.y ∧ p.x < q.x)

theorem Before.ne {p q : Position} (h : p.Before q) : p ≠ q := by
  rintro rfl
  unfold Before at h
  omega

end Position

namespace Grid

/-! ## Cells -/

theorem mem_rowCells_iff {y : Nat} {row : List Char} {p : Position} {glyph : Char} :
    (p, glyph) ∈ rowCells y row ↔ ∃ x : Nat, p = ⟨x, y⟩ ∧ row[x]? = some glyph := by
  simp only [rowCells, List.mem_map, Prod.mk.injEq, Prod.exists, List.mem_zipIdx_iff_getElem?]
  constructor
  · rintro ⟨c, x, hc, rfl, rfl⟩
    exact ⟨x, rfl, hc⟩
  · rintro ⟨x, rfl, hx⟩
    exact ⟨glyph, x, hx, rfl, rfl⟩

theorem mem_cells_iff {g : Grid} {p : Position} {glyph : Char} :
    (p, glyph) ∈ g.cells ↔ ∃ x y : Nat, p = ⟨x, y⟩ ∧ g.at? x y = some glyph := by
  simp only [cells, List.mem_flatMap, Prod.exists, List.mem_zipIdx_iff_getElem?, mem_rowCells_iff,
    at?, Option.bind_eq_some_iff]
  constructor
  · rintro ⟨row, y, hrow, x, hp, hx⟩
    exact ⟨x, y, hp, row, hrow, hx⟩
  · rintro ⟨x, y, hp, row, hrow, hx⟩
    exact ⟨row, y, hrow, x, hp, hx⟩

theorem zipIdx_pairwise {α : Type} (xs : List α) : xs.zipIdx.Pairwise fun a b => a.2 < b.2 := by
  have places : (xs.zipIdx.map Prod.snd).Pairwise (· < ·) := by
    rw [List.zipIdx_map_snd]
    exact List.pairwise_lt_range'
  exact List.pairwise_map.mp places

theorem rowCells_pairwise (y : Nat) (row : List Char) :
    (rowCells y row).Pairwise fun a b => a.1.Before b.1 := by
  rw [rowCells, List.pairwise_map]
  refine (zipIdx_pairwise row).imp ?_
  intro a b hab
  exact Or.inr ⟨rfl, Int.ofNat_lt.mpr hab⟩

theorem cells_pairwise (g : Grid) : g.cells.Pairwise fun a b => a.1.Before b.1 := by
  rw [cells, List.pairwise_flatMap]
  constructor
  · rintro ⟨row, y⟩ -
    exact rowCells_pairwise y row
  · refine (zipIdx_pairwise g).imp ?_
    rintro ⟨row, y⟩ ⟨row', y'⟩ hy ⟨p, c⟩ hp ⟨q, d⟩ hq
    obtain ⟨x, rfl, -⟩ := mem_rowCells_iff.mp hp
    obtain ⟨x', rfl, -⟩ := mem_rowCells_iff.mp hq
    exact Or.inl (Int.ofNat_lt.mpr hy)

theorem map_snd_rowCells (y : Nat) (row : List Char) : (rowCells y row).map (·.2) = row := by
  rw [rowCells, List.map_map]
  exact List.zipIdx_map_fst 0 row

theorem map_snd_cells (g : Grid) : g.cells.map (·.2) = g.flatten := by
  rw [cells, List.map_flatMap, List.flatMap_def]
  simp only [map_snd_rowCells]
  exact congrArg List.flatten (List.zipIdx_map_fst 0 g)

/-! ## Markers -/

theorem mem_marks_iff {g : Grid} {p : Position} {m : Marker} :
    (p, m) ∈ g.marks ↔ ∃ glyph, (p, glyph) ∈ g.cells ∧ Marker.ofGlyph? glyph = some m := by
  simp only [marks, List.mem_filterMap, Prod.exists, Option.map_eq_some_iff, Prod.mk.injEq]
  constructor
  · rintro ⟨q, glyph, hcell, m', hm, rfl, rfl⟩
    exact ⟨glyph, hcell, hm⟩
  · rintro ⟨glyph, hcell, hm⟩
    exact ⟨p, glyph, hcell, m, hm, rfl, rfl⟩

theorem marks_pairwise (g : Grid) : g.marks.Pairwise fun a b => a.1.Before b.1 := by
  rw [marks, List.pairwise_filterMap]
  refine g.cells_pairwise.imp ?_
  rintro ⟨p, c⟩ ⟨q, d⟩ h a ha b hb
  obtain ⟨m, -, rfl⟩ := Option.map_eq_some_iff.mp ha
  obtain ⟨n, -, rfl⟩ := Option.map_eq_some_iff.mp hb
  exact h

/-- Only one marker stands on a cell. -/
theorem mark_unique {g : Grid} {p : Position} {m n : Marker} (hm : (p, m) ∈ g.marks)
    (hn : (p, n) ∈ g.marks) : m = n := by
  obtain ⟨c, hc, first⟩ := mem_marks_iff.mp hm
  obtain ⟨d, hd, second⟩ := mem_marks_iff.mp hn
  obtain ⟨x, y, rfl, hx⟩ := mem_cells_iff.mp hc
  obtain ⟨x', y', hp, hx'⟩ := mem_cells_iff.mp hd
  simp only [Position.mk.injEq, Int.ofNat_inj] at hp
  obtain ⟨rfl, rfl⟩ := hp
  rw [hx, Option.some.injEq] at hx'
  subst hx'
  exact Option.some.inj (first.symm.trans second)

theorem mem_spawns_iff {g : Grid} {p : Position} : p ∈ g.spawns ↔ (p, .player) ∈ g.marks := by
  simp only [spawns, List.mem_filterMap, Prod.exists, Option.ite_none_right_eq_some,
    Option.some.injEq]
  constructor
  · rintro ⟨q, m, hmark, rfl, rfl⟩
    exact hmark
  · intro hmark
    exact ⟨p, .player, hmark, rfl, rfl⟩

/-! ## The bare grid -/

theorem length_bare (g : Grid) : g.bare.length = g.length := by simp [bare]

theorem at?_bare (g : Grid) (x y : Nat) :
    g.bare.at? x y =
      (g.at? x y).map fun glyph => if (Marker.ofGlyph? glyph).isSome then floor else glyph := by
  simp only [at?, bare, List.getElem?_map]
  cases g[y]? with
  | none => rfl
  | some row => simp only [Option.map_some, Option.bind_some, List.getElem?_map]

theorem at?_bare_of_mem_marks {g : Grid} {p : Position} {m : Marker} (h : (p, m) ∈ g.marks) :
    ∃ x y : Nat, p = ⟨x, y⟩ ∧ g.bare.at? x y = some floor := by
  obtain ⟨glyph, hcell, hm⟩ := mem_marks_iff.mp h
  obtain ⟨x, y, rfl, hx⟩ := mem_cells_iff.mp hcell
  refine ⟨x, y, rfl, ?_⟩
  rw [at?_bare, hx]
  simp [hm]

/-- A cell of a rectangular grid lies in its extent. -/
theorem lt_of_at?_eq_some {g : Grid} {width x y : Nat} {glyph : Char}
    (rectangular : ∀ row ∈ g, row.length = width) (h : g.at? x y = some glyph) :
    x < width ∧ y < g.length := by
  obtain ⟨row, hrow, hx⟩ := Option.bind_eq_some_iff.mp h
  have wide := rectangular row (List.mem_of_getElem? hrow)
  have := (List.getElem?_eq_some_iff.mp hx).choose
  have := (List.getElem?_eq_some_iff.mp hrow).choose
  omega

end Grid
end GridRunner
