import GridRunner.Proofs.Level.Glyphs
import GridRunner.Proofs.World.Placement
import Mathlib.Data.List.Find
import Mathlib.Data.List.Induction

/-! # What the picture shows

Entities are painted one over the other, so a cell shows the last one painted on it, and its tile
if there is none.  Where no two entities share a cell the order does not matter.  The picture of
a level just loaded is its map, and later ones differ from it only where the player stands, where
it started, and where something has left.
-/

namespace GridRunner

theorem Position.toNat_eq_iff {p q : Position} (hp : 0 ≤ p.x ∧ 0 ≤ p.y) (hq : 0 ≤ q.x ∧ 0 ≤ q.y) :
    (p.x.toNat = q.x.toNat ∧ p.y.toNat = q.y.toNat) ↔ p = q := by
  obtain ⟨x, y⟩ := p
  obtain ⟨x', y'⟩ := q
  simp only [Position.mk.injEq]
  dsimp only at hp hq
  omega

namespace World

theorem map_length_foldl_draw (es : List Entity) (g : Grid) :
    (es.foldl draw g).map List.length = g.map List.length := by
  induction es generalizing g with
  | nil => rfl
  | cons e rest ih =>
    rw [List.foldl_cons, ih, draw]
    split
    · exact g.map_length_paint _ _ _
    · rfl

theorem map_length_picture (w : World) : w.picture.map List.length = w.tiles.map List.length :=
  map_length_foldl_draw w.entities w.tiles

theorem glyph?_draw (g : Grid) (e : Entity) (p : Position) :
    (draw g e).glyph? p =
      if e.position = p then (g.glyph? p).map fun _ => e.symbol else g.glyph? p := by
  by_cases nonneg : 0 ≤ p.x ∧ 0 ≤ p.y
  · by_cases inside : 0 ≤ e.position.x ∧ 0 ≤ e.position.y
    · rw [draw, if_pos inside, Grid.glyph?, Grid.glyph?, if_pos nonneg, if_pos nonneg,
        Grid.at?_paint]
      simp only [Position.toNat_eq_iff inside nonneg]
    · have elsewhere : e.position ≠ p := by
        rintro rfl
        exact inside nonneg
      rw [draw, if_neg inside, if_neg elsewhere]
  · simp [Grid.glyph?, nonneg]

/-- A cell shows the entity painted on it last. -/
theorem glyph?_foldl_draw (es : List Entity) (g : Grid) (p : Position) :
    (es.foldl draw g).glyph? p =
      (g.glyph? p).map fun tile =>
        ((es.reverse.find? (·.position = p)).map Entity.symbol).getD tile := by
  induction es using List.reverseRecOn with
  | nil => simp
  | append_singleton es e ih =>
    rw [List.foldl_append, List.foldl_cons, List.foldl_nil, glyph?_draw, ih, List.reverse_append]
    by_cases here : e.position = p
    · simp [here, Function.comp_def]
    · simp [here]

theorem entityAt?_eq_none_iff {w : World} {p : Position} :
    w.entityAt? p = none ↔ ∀ e ∈ w.hostiles ++ w.fixtures, e.position ≠ p := by
  simp only [entityAt?, List.find?_eq_none, decide_eq_true_iff, ne_eq]

section Apart

variable {w : World}
  (apart : (w.hostiles ++ w.fixtures).Pairwise fun a b => a.position ≠ b.position)

include apart

theorem find?_drawn (p : Position) :
    (w.fixtures ++ w.hostiles).reverse.find? (·.position = p) = w.entityAt? p := by
  -- Fixtures are drawn before hostiles but looked up after them; with one entity a cell the
  -- order does not tell.
  have shuffled : (w.fixtures ++ w.hostiles).reverse.Perm (w.hostiles ++ w.fixtures) :=
    (List.reverse_perm _).trans List.perm_append_comm
  refine (List.find?_eq_find?_of_perm shuffled.symm ?_).symm
  rintro a ⟨ha, here⟩ b ⟨hb, there⟩
  have first := entityAt?_eq_some_of_mem apart ha
  have second := entityAt?_eq_some_of_mem apart hb
  rw [of_decide_eq_true here] at first
  rw [of_decide_eq_true there, first] at second
  exact Option.some.inj second

/-- Where no two entities share a cell, each shows the player, else its entity, else its tile. -/
theorem glyph?_picture (p : Position) :
    w.picture.glyph? p =
      (w.tiles.glyph? p).map fun tile =>
        if p = w.player.position then w.player.symbol
        else ((w.entityAt? p).map Entity.symbol).getD tile := by
  rw [picture, glyph?_foldl_draw, entities, List.reverse_append, List.find?_append,
    find?_drawn apart]
  by_cases here : p = w.player.position
  · simp [here]
  · simp [here, Ne.symm here]

end Apart

/-! ## Against the map -/

def Vacated (layout : Layout) (w : World) (p : Position) : Prop :=
  layout.Places p ∧ w.entityAt? p = none

instance (layout : Layout) (w : World) (p : Position) : Decidable (Vacated layout w p) :=
  inferInstanceAs (Decidable (layout.Places p ∧ w.entityAt? p = none))

section Played

variable {rules : Rules} {level : Level} {layout : Layout} {w₀ w : World}

theorem tiles_of_thins (read : level.layout rules = .ok layout)
    (thins : Thins (w₀.enter layout) w) : w.tiles = level.map.bare := by
  obtain ⟨-, player, -, rfl⟩ := Level.layout_eq_ok_iff.mp read
  exact thins.tiles

theorem symbol_of_entityAt? (read : level.layout rules = .ok layout)
    (thins : Thins (w₀.enter layout) w) {p : Position} {e : Entity}
    (found : w.entityAt? p = some e) :
    level.map.glyph? p = some e.symbol ∧ layout.Places p := by
  obtain ⟨member, here⟩ := mem_of_entityAt? found
  obtain ⟨e₀, he₀, position, -, symbol⟩ := Thins.exists_before thins.entities member
  have placed := (Level.of_mem_layout read he₀).1
  rw [position, here, symbol] at placed
  exact ⟨placed, e₀, he₀, position.trans here⟩

/-- The picture is the map with floor where the player started and where something left, and
with the player. -/
theorem glyph?_picture_eq_map (read : level.layout rules = .ok layout)
    (thins : Thins (w₀.enter layout) w) (symbol : w.player.symbol = '@') (p : Position) :
    w.picture.glyph? p =
      (level.map.glyph? p).map fun glyph =>
        if p = w.player.position then '@'
        else if p = layout.player ∨ Vacated layout w p then Grid.floor
        else glyph := by
  rw [glyph?_picture (thins.apart (apart_enter read w₀)), tiles_of_thins read thins,
    Grid.glyph?_bare, Option.map_map, symbol]
  cases cell : level.map.glyph? p with
  | none => rfl
  | some glyph =>
    have marked := Level.isSome_ofGlyph?_iff read cell
    simp only [Option.map_some, Function.comp_apply, Vacated]
    rcases Option.eq_none_or_eq_some (w.entityAt? p) with gone | ⟨e, found⟩
    · simp [gone, marked]
    · obtain ⟨drawn, placed⟩ := symbol_of_entityAt? read thins found
      have elsewhere : p ≠ layout.player := by
        rintro rfl
        exact Level.not_places_spawn read placed
      rw [cell, Option.some.injEq] at drawn
      simp [found, elsewhere, drawn]

/-- With everything in its first place the picture is the map. -/
theorem picture_enter (read : level.layout rules = .ok layout) (symbol : w.player.symbol = '@') :
    (w.enter layout).picture = level.map := by
  have nothingLeft : ∀ p, ¬ Vacated layout (w.enter layout) p := by
    rintro p ⟨⟨e, he, here⟩, gone⟩
    exact entityAt?_eq_none_iff.mp gone e he here
  have start : (w.enter layout).player.position = layout.player := rfl
  have lengths := map_length_picture (w.enter layout)
  rw [tiles_of_thins read (Thins.refl _), Grid.map_length_bare] at lengths
  refine Grid.ext_glyph? (by simpa using congrArg List.length lengths) ?_
  intro p
  rw [glyph?_picture_eq_map read (Thins.refl _) symbol]
  cases cell : level.map.glyph? p with
  | none => rfl
  | some glyph =>
    by_cases spawn : p = layout.player
    · subst spawn
      rw [Level.glyph?_spawn read, Option.some.injEq] at cell
      subst cell
      simp [start]
    · simp [start, spawn, nothingLeft p]

/-- What the player sees of a level in play. -/
structure Pictured (level : Level) (layout : Layout) (w : World) : Prop where
  extent : w.picture.map List.length = List.replicate w.height w.width
  /-- The player over the entities over the tiles. -/
  layers : ∀ p, w.contains p = true →
    w.picture.glyph? p =
      if p = w.player.position then some '@'
      else ((w.entityAt? p).map Entity.symbol).or (w.tile? p)
  /-- The map, but for what has changed since the level was loaded. -/
  changes : ∀ p, w.contains p = true →
    w.picture.glyph? p =
      if p = w.player.position then some '@'
      else if p = layout.player ∨ Vacated layout w p then some Grid.floor
      else level.map.glyph? p

theorem WellPlaced.exists_tile (placed : w.WellPlaced) {p : Position} (h : w.contains p = true) :
    ∃ tile, w.tiles.glyph? p = some tile ∧ w.tile? p = some tile := by
  obtain ⟨left, top, right, bottom⟩ := contains_iff.mp h
  have line : p.y.toNat < w.tiles.length := by
    rw [placed.rows]
    omega
  have column : p.x.toNat < w.tiles[p.y.toNat].length := by
    rw [placed.columns _ (List.getElem_mem line)]
    omega
  have tile : w.tiles.at? p.x.toNat p.y.toNat = some w.tiles[p.y.toNat][p.x.toNat] := by
    rw [Grid.at?, List.getElem?_eq_getElem line, Option.bind_some, List.getElem?_eq_getElem column]
  refine ⟨w.tiles[p.y.toNat][p.x.toNat], ?_, ?_⟩
  · rw [Grid.glyph?, if_pos ⟨left, top⟩, tile]
  · rw [tile?, if_pos h, tile]

theorem WellPlaced.pictured (placed : w.WellPlaced) (read : level.layout rules = .ok layout)
    (thins : Thins (w₀.enter layout) w) (symbol : w.player.symbol = '@') :
    Pictured level layout w where
  extent := by
    rw [map_length_picture, List.eq_replicate_iff, List.length_map]
    exact ⟨placed.rows, List.forall_mem_map.mpr placed.columns⟩
  layers := by
    intro p inside
    obtain ⟨tile, drawn, found⟩ := placed.exists_tile inside
    rw [glyph?_picture placed.apart, drawn, found, symbol]
    by_cases here : p = w.player.position
    · simp [here]
    · cases w.entityAt? p <;> simp [here]
  changes := by
    intro p inside
    obtain ⟨tile, drawn, -⟩ := placed.exists_tile inside
    rw [tiles_of_thins read thins, Grid.glyph?_bare, Option.map_eq_some_iff] at drawn
    obtain ⟨glyph, cell, -⟩ := drawn
    rw [glyph?_picture_eq_map read thins symbol, cell]
    by_cases here : p = w.player.position
    · simp [here]
    · by_cases left : p = layout.player ∨ Vacated layout w p
      · simp [here, left]
      · simp [here, left]

end Played

end World
end GridRunner
