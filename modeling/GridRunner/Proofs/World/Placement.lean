import GridRunner.Proofs.Level.Playable
import GridRunner.Proofs.World.Change

/-! # Where things stand

In a well-placed world the grid is a full rectangle, every entity has a floor cell of its own,
and the player stands on a free cell.  Loading a level makes a world well placed, and no action
changes that: entities only vanish, and a walk enters free cells only.
-/

namespace GridRunner
namespace World

/-- A cell the player can stand on: floor, with nothing on it but perhaps a key. -/
def IsFree (w : World) (p : Position) : Prop :=
  w.isFloor p = true ∧ ∀ e ∈ w.hostiles ++ w.fixtures, e.position = p → e.kind.barsWay = false

/-- The spatial invariant of a level in play. -/
structure WellPlaced (w : World) : Prop where
  width_pos : 1 ≤ w.width
  width_le : w.width ≤ Rules.maxExtent
  height_pos : 1 ≤ w.height
  height_le : w.height ≤ Rules.maxExtent
  rows : w.tiles.length = w.height
  columns : ∀ row ∈ w.tiles, row.length = w.width
  player_inside : w.contains w.player.position = true
  player_free : w.IsFree w.player.position
  inside : ∀ e ∈ w.hostiles ++ w.fixtures, w.contains e.position = true
  on_floor : ∀ e ∈ w.hostiles ++ w.fixtures, w.isFloor e.position = true
  apart : (w.hostiles ++ w.fixtures).Pairwise fun a b => a.position ≠ b.position
  foes : ∀ e ∈ w.hostiles, e.kind.IsFoe
  fittings : ∀ e ∈ w.fixtures, e.kind.IsFixture

theorem contains_iff {w : World} {p : Position} :
    w.contains p = true ↔ 0 ≤ p.x ∧ 0 ≤ p.y ∧ p.x < w.width ∧ p.y < w.height := by
  simp only [contains, Bool.and_eq_true, decide_eq_true_iff, and_assoc]

theorem contains_of_isFloor {w : World} {p : Position} (h : w.isFloor p = true) :
    w.contains p = true := by
  by_cases inside : w.contains p = true
  · exact inside
  · simp [isFloor, tile?, inside] at h

theorem mem_of_entityAt? {w : World} {p : Position} {e : Entity} (h : w.entityAt? p = some e) :
    e ∈ w.hostiles ++ w.fixtures ∧ e.position = p := by
  rw [entityAt?] at h
  exact ⟨List.mem_of_find?_eq_some h, by simpa using List.find?_some h⟩

/-- Where no two entities share a cell, the first entity on a cell is the only one. -/
theorem entityAt?_eq_some_of_mem {w : World} {e : Entity}
    (apart : (w.hostiles ++ w.fixtures).Pairwise fun a b => a.position ≠ b.position)
    (h : e ∈ w.hostiles ++ w.fixtures) : w.entityAt? e.position = some e := by
  obtain ⟨front, behind, split⟩ := List.append_of_mem h
  rw [split] at apart
  have others := (List.pairwise_append.mp apart).2.2
  rw [entityAt?, split, List.find?_append, List.find?_eq_none.mpr]
  · simp
  · intro other hother
    simpa using others other hother e (by simp)

theorem Admits.isFree {w : World} {p : Position}
    (apart : (w.hostiles ++ w.fixtures).Pairwise fun a b => a.position ≠ b.position)
    (h : w.Admits p) : w.IsFree p := by
  refine ⟨h.1, ?_⟩
  intro e he hp
  subst hp
  exact h.2 e (entityAt?_eq_some_of_mem apart he)

/-! ## Vanishing entities -/

/-- The same grid with no more entities on it; those left are where they were. -/
structure Thins (w w' : World) : Prop where
  tiles : w'.tiles = w.tiles
  width : w'.width = w.width
  height : w'.height = w.height
  hostiles : (w'.hostiles.map Entity.outline).Sublist (w.hostiles.map Entity.outline)
  fixtures : w'.fixtures.Sublist w.fixtures

namespace Thins

variable {w w' : World}

theorem refl (w : World) : Thins w w :=
  ⟨rfl, rfl, rfl, List.Sublist.refl _, List.Sublist.refl _⟩

theorem trans {w'' : World} (t : Thins w w') (t' : Thins w' w'') : Thins w w'' :=
  ⟨t'.tiles.trans t.tiles, t'.width.trans t.width, t'.height.trans t.height,
    t'.hostiles.trans t.hostiles, t'.fixtures.trans t.fixtures⟩

theorem contains_eq (t : Thins w w') (p : Position) : w'.contains p = w.contains p := by
  simp only [contains, t.width, t.height]

theorem isFloor_eq (t : Thins w w') (p : Position) : w'.isFloor p = w.isFloor p := by
  simp only [isFloor, tile?, t.contains_eq, t.tiles]

theorem entities (t : Thins w w') :
    ((w'.hostiles ++ w'.fixtures).map Entity.outline).Sublist
      ((w.hostiles ++ w.fixtures).map Entity.outline) := by
  rw [List.map_append, List.map_append]
  exact t.hostiles.append (t.fixtures.map Entity.outline)

/-- An entity left over was there before, in the same place, of the same kind and glyph. -/
theorem exists_before {xs ys : List Entity}
    (fewer : (ys.map Entity.outline).Sublist (xs.map Entity.outline)) {e : Entity} (h : e ∈ ys) :
    ∃ e₀ ∈ xs, e₀.position = e.position ∧ e₀.kind = e.kind ∧ e₀.symbol = e.symbol := by
  have kept := fewer.subset (List.mem_map_of_mem h)
  obtain ⟨e₀, he₀, same⟩ := List.mem_map.mp kept
  have position : e₀.outline.position = e.outline.position := congrArg Entity.position same
  have kind : e₀.outline.kind = e.outline.kind := congrArg Entity.kind same
  have symbol : e₀.outline.symbol = e.outline.symbol := congrArg Entity.symbol same
  exact ⟨e₀, he₀, position, kind, symbol⟩

theorem isFree (t : Thins w w') {p : Position} (h : w.IsFree p) : w'.IsFree p := by
  refine ⟨(t.isFloor_eq p).trans h.1, ?_⟩
  intro e he hp
  obtain ⟨e₀, he₀, position, kind, -⟩ := exists_before t.entities he
  rw [← kind]
  exact h.2 e₀ he₀ (position.trans hp)

theorem apart (t : Thins w w')
    (h : (w.hostiles ++ w.fixtures).Pairwise fun a b => a.position ≠ b.position) :
    (w'.hostiles ++ w'.fixtures).Pairwise fun a b => a.position ≠ b.position := by
  have positions : ((w'.hostiles ++ w'.fixtures).map Entity.position).Sublist
      ((w.hostiles ++ w.fixtures).map Entity.position) := by
    have kept := t.entities.map Entity.position
    rw [List.map_map, List.map_map] at kept
    exact kept
  exact List.pairwise_map.mp ((List.pairwise_map.mpr h).sublist positions)

end Thins

/-- A world stays well placed as entities vanish and the player moves to a cell that was free. -/
theorem WellPlaced.thin {w w' : World} (h : w.WellPlaced) (t : Thins w w')
    (player : w.IsFree w'.player.position) : w'.WellPlaced where
  width_pos := t.width ▸ h.width_pos
  width_le := t.width ▸ h.width_le
  height_pos := t.height ▸ h.height_pos
  height_le := t.height ▸ h.height_le
  rows := by rw [t.tiles, t.height, h.rows]
  columns := by rw [t.tiles, t.width]; exact h.columns
  player_inside := contains_of_isFloor (t.isFree player).1
  player_free := t.isFree player
  inside := by
    intro e he
    obtain ⟨e₀, he₀, position, -⟩ := Thins.exists_before t.entities he
    rw [t.contains_eq, ← position]
    exact h.inside e₀ he₀
  on_floor := by
    intro e he
    obtain ⟨e₀, he₀, position, -⟩ := Thins.exists_before t.entities he
    rw [t.isFloor_eq, ← position]
    exact h.on_floor e₀ he₀
  apart := t.apart h.apart
  foes := by
    intro e he
    obtain ⟨e₀, he₀, -, kind, -⟩ := Thins.exists_before t.hostiles he
    exact kind ▸ h.foes e₀ he₀
  fittings := by
    intro e he
    exact h.fittings e (t.fixtures.subset he)

/-! ## Actions -/

theorem perform_thins (rules : Rules) (action : Action) (w : World) :
    Thins w (w.perform rules action).2 := by
  obtain ⟨p, log, complete, aura, -, moved⟩ | ⟨fixtures, registers, log, fewer, taken⟩ |
    ⟨hostiles, log, fewer, hit⟩ := w.perform_cases rules action
  · rw [moved]
    exact ⟨rfl, rfl, rfl, List.Sublist.refl _, List.Sublist.refl _⟩
  · rw [taken]
    exact ⟨rfl, rfl, rfl, List.Sublist.refl _, fewer⟩
  · rw [hit]
    exact ⟨rfl, rfl, rfl, fewer, List.Sublist.refl _⟩

theorem perform_player (rules : Rules) (action : Action) (w : World) :
    (w.perform rules action).2.player.position = w.player.position ∨
      w.Admits (w.perform rules action).2.player.position := by
  obtain ⟨p, log, complete, aura, reached, moved⟩ | ⟨fixtures, registers, log, -, taken⟩ |
    ⟨hostiles, log, -, hit⟩ := w.perform_cases rules action
  · rw [moved]
    exact reached
  · rw [taken]
    exact Or.inl rfl
  · rw [hit]
    exact Or.inl rfl

/-! ## Loading -/

section Loading

variable {rules : Rules} {level : Level} {layout : Layout}

/-- The cell of a marker is a floor cell of the level. -/
theorem isFloor_enter_of_mem_marks (loaded : level.layout rules = .ok layout) (w : World)
    {p : Position} {m : Marker} (h : (p, m) ∈ level.map.marks) :
    (w.enter layout).isFloor p = true := by
  obtain ⟨playable, player, -, rfl⟩ := Level.layout_eq_ok_iff.mp loaded
  obtain ⟨x, y, rfl, floor⟩ := Grid.at?_bare_of_mem_marks h
  have extent := Grid.lt_of_at?_eq_some (Grid.rectangular_bare playable.rectangular) floor
  rw [Grid.length_bare] at extent
  have inside : (w.enter (Level.layoutFrom rules level.map player)).contains ⟨x, y⟩ = true := by
    simp only [contains_iff, enter, Level.layoutFrom, Grid.height]
    omega
  rw [isFloor, tile?, if_pos inside]
  simpa [enter, Level.layoutFrom] using floor

theorem hostile_of_mem_enter (loaded : level.layout rules = .ok layout) (w : World) {e : Entity}
    (h : e ∈ (w.enter layout).hostiles) :
    ∃ m, (e.position, m) ∈ level.map.marks ∧ e.kind.IsFoe ∧ (m = .enemy ∨ m = .boss) := by
  obtain ⟨-, player, -, rfl⟩ := Level.layout_eq_ok_iff.mp loaded
  obtain ⟨⟨p, m⟩, hmark, placed⟩ := List.mem_filterMap.mp h
  obtain ⟨rfl, foe, marker⟩ := Marker.hostile?_eq_some placed
  exact ⟨m, hmark, foe, marker⟩

theorem fixture_of_mem_enter (loaded : level.layout rules = .ok layout) (w : World) {e : Entity}
    (h : e ∈ (w.enter layout).fixtures) :
    ∃ m, (e.position, m) ∈ level.map.marks ∧ e.kind.IsFixture ∧
      m ≠ .enemy ∧ m ≠ .boss ∧ m ≠ .player := by
  obtain ⟨-, player, -, rfl⟩ := Level.layout_eq_ok_iff.mp loaded
  obtain ⟨⟨p, m⟩, hmark, placed⟩ := List.mem_filterMap.mp h
  obtain ⟨rfl, fixture, marker⟩ := Marker.fixture?_eq_some placed
  exact ⟨m, hmark, fixture, marker⟩

/-- Every entity of a level just loaded stands on a marked cell, and not on the player's. -/
theorem mark_of_mem_enter (loaded : level.layout rules = .ok layout) (w : World) {e : Entity}
    (h : e ∈ (w.enter layout).hostiles ++ (w.enter layout).fixtures) :
    ∃ m, (e.position, m) ∈ level.map.marks ∧ m ≠ .player := by
  cases List.mem_append.mp h with
  | inl hostile =>
    obtain ⟨m, hmark, -, marker⟩ := hostile_of_mem_enter loaded w hostile
    refine ⟨m, hmark, ?_⟩
    rintro rfl
    simp at marker
  | inr fixture =>
    obtain ⟨m, hmark, -, -, -, marker⟩ := fixture_of_mem_enter loaded w fixture
    exact ⟨m, hmark, marker⟩

theorem apart_enter (loaded : level.layout rules = .ok layout) (w : World) :
    ((w.enter layout).hostiles ++ (w.enter layout).fixtures).Pairwise
      fun a b => a.position ≠ b.position := by
  have in_order : ∀ (placed : Position × Marker → Option Entity),
      (∀ mark e, placed mark = some e → e.position = mark.1) →
      (level.map.marks.filterMap placed).Pairwise fun a b => a.position ≠ b.position := by
    intro placed position
    rw [List.pairwise_filterMap]
    refine level.map.marks_pairwise.imp ?_
    intro a b before e he e' he'
    rw [position a e he, position b e' he']
    exact before.ne
  refine List.pairwise_append.mpr ⟨?_, ?_, ?_⟩
  · obtain ⟨-, player, -, rfl⟩ := Level.layout_eq_ok_iff.mp loaded
    exact in_order _ fun mark e placed => (Marker.hostile?_eq_some placed).1
  · obtain ⟨-, player, -, rfl⟩ := Level.layout_eq_ok_iff.mp loaded
    exact in_order _ fun mark e placed => (Marker.fixture?_eq_some placed).1
  · intro a ha b hb shared
    obtain ⟨m, hm, -, foe⟩ := hostile_of_mem_enter loaded w ha
    obtain ⟨n, hn, -, notEnemy, notBoss, -⟩ := fixture_of_mem_enter loaded w hb
    rw [shared] at hm
    have same := Grid.mark_unique hm hn
    subst same
    cases foe with
    | inl enemy => exact notEnemy enemy
    | inr boss => exact notBoss boss

theorem wellPlaced_enter (loaded : level.layout rules = .ok layout) (w : World) :
    (w.enter layout).WellPlaced := by
  have onFloor : ∀ e ∈ (w.enter layout).hostiles ++ (w.enter layout).fixtures,
      (w.enter layout).isFloor e.position = true := by
    intro e he
    obtain ⟨m, hmark, -⟩ := mark_of_mem_enter loaded w he
    exact isFloor_enter_of_mem_marks loaded w hmark
  obtain ⟨playable, player, hspawns, hlayout⟩ := Level.layout_eq_ok_iff.mp loaded
  have spawn : (layout.player, Marker.player) ∈ level.map.marks := by
    rw [← Grid.mem_spawns_iff, hspawns, hlayout]
    exact List.mem_singleton_self player
  have playerFloor := isFloor_enter_of_mem_marks loaded w spawn
  have playerFree : (w.enter layout).IsFree layout.player := by
    refine ⟨playerFloor, ?_⟩
    intro e he here
    obtain ⟨m, hmark, notPlayer⟩ := mark_of_mem_enter loaded w he
    rw [here] at hmark
    exact absurd (Grid.mark_unique hmark spawn) notPlayer
  exact {
    width_pos := hlayout ▸ playable.width_pos
    width_le := hlayout ▸ playable.width_le
    height_pos := hlayout ▸ Grid.height_pos_of_width_pos playable.width_pos
    height_le := hlayout ▸ playable.height_le
    rows := hlayout ▸ Grid.length_bare level.map
    columns := hlayout ▸ Grid.rectangular_bare playable.rectangular
    player_inside := contains_of_isFloor playerFloor
    player_free := playerFree
    inside := fun e he => contains_of_isFloor (onFloor e he)
    on_floor := onFloor
    apart := apart_enter loaded w
    foes := fun e he => (hostile_of_mem_enter loaded w he).elim fun m found => found.2.1
    fittings := fun e he => (fixture_of_mem_enter loaded w he).elim fun m found => found.2.1 }

end Loading

end World
end GridRunner
