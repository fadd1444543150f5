import GridRunner.Proofs.World.Stops
import Mathlib.Logic.Relation

/-! # The region around the player

A walk whose step is a single cell to one side never leaves the region of free cells that are
joined to its start (`Explored`), however long it is and whatever stops it.
-/

namespace GridRunner
namespace Position

def Beside (p q : Position) : Prop := (p.x - q.x).natAbs + (p.y - q.y).natAbs = 1

theorem beside_plus_iff {p : Position} {dx dy : Int} :
    p.Beside (p.plus dx dy) ↔ dx.natAbs + dy.natAbs = 1 := by
  simp only [Beside, plus]
  omega

theorem Beside.eq_plus {p q : Position} (h : p.Beside q) :
    q = p.plus 1 0 ∨ q = p.plus (-1) 0 ∨ q = p.plus 0 1 ∨ q = p.plus 0 (-1) := by
  obtain ⟨x, y⟩ := q
  simp only [Beside] at h
  simp only [plus, mk.injEq]
  omega

end Position

namespace World

def Adjoins (w : World) (p q : Position) : Prop := w.IsFree p ∧ w.IsFree q ∧ p.Beside q

def Joined (w : World) : Position → Position → Prop := Relation.ReflTransGen w.Adjoins

def ExitBeside (w : World) (p : Position) : Prop :=
  ∃ e ∈ w.fixtures, e.kind = .exit ∧ p.Beside e.position

/-! ## What a walk leaves alone -/

structure SameMap (w w' : World) : Prop where
  tiles : w'.tiles = w.tiles
  width : w'.width = w.width
  height : w'.height = w.height
  hostiles : w'.hostiles = w.hostiles
  fixtures : w'.fixtures = w.fixtures

namespace SameMap

variable {w w' w'' : World}

theorem refl (w : World) : SameMap w w := ⟨rfl, rfl, rfl, rfl, rfl⟩

theorem trans (s : SameMap w w') (t : SameMap w' w'') : SameMap w w'' :=
  ⟨t.tiles.trans s.tiles, t.width.trans s.width, t.height.trans s.height,
    t.hostiles.trans s.hostiles, t.fixtures.trans s.fixtures⟩

theorem thins (s : SameMap w w') : Thins w w' :=
  ⟨s.tiles, s.width, s.height, by rw [s.hostiles], by rw [s.fixtures]⟩

theorem isFree_eq (s : SameMap w w') : w'.IsFree = w.IsFree := by
  funext p
  simp only [IsFree, s.thins.isFloor_eq, s.hostiles, s.fixtures]

theorem joined_eq (s : SameMap w w') : w'.Joined = w.Joined := by
  have adjoins : w'.Adjoins = w.Adjoins := by
    funext p q
    simp only [Adjoins, s.isFree_eq]
  rw [Joined, Joined, adjoins]

theorem exitBeside_eq (s : SameMap w w') : w'.ExitBeside = w.ExitBeside := by
  funext p
  simp only [ExitBeside, s.fixtures]

end SameMap

/-- What walking about by single cells can do to a world. -/
structure Explored (w w' : World) : Prop where
  map : SameMap w w'
  mode : w'.mode = w.mode
  joined : w.Joined w.player.position w'.player.position
  exit : w'.complete = true → w.complete = true ∨
    ∃ p, w.Joined w.player.position p ∧ w.ExitBeside p

theorem Explored.trans {w w' w'' : World} (e : Explored w w') (e' : Explored w' w'') :
    Explored w w'' where
  map := e.map.trans e'.map
  mode := e'.mode.trans e.mode
  joined := by
    have onward := e'.joined
    rw [e.map.joined_eq] at onward
    exact Relation.ReflTransGen.trans e.joined onward
  exit := by
    intro complete
    rcases e'.exit complete with earlier | ⟨p, joined, beside⟩
    · exact e.exit earlier
    · rw [e.map.joined_eq] at joined
      rw [e.map.exitBeside_eq] at beside
      exact .inr ⟨p, Relation.ReflTransGen.trans e.joined joined, beside⟩

theorem Explored.wellPlaced {w w' : World} (e : Explored w w') (placed : w.WellPlaced) :
    w'.WellPlaced := by
  refine placed.thin e.map.thins ?_
  -- The last cell of the path is free, and so is the first.
  cases Relation.ReflTransGen.cases_tail e.joined with
  | inl stayed => exact stayed ▸ placed.player_free
  | inr moved =>
    obtain ⟨q, -, adjoins⟩ := moved
    exact adjoins.2.1

/-! ## Walks -/

section Walks

variable {w : World}

theorem WellPlaced.exitBeside_of_meets (placed : w.WellPlaced) {p : Position}
    (beside : w.player.position.Beside p) (meets : w.Meets p .exit) :
    w.ExitBeside w.player.position := by
  cases meets with
  | @exit e member here exit =>
    rcases List.mem_append.mp member with hostile | fixture
    · rcases placed.foes e hostile with foe | foe
      · rw [foe] at exit
        cases exit
      · rw [foe] at exit
        cases exit
    · exact ⟨e, fixture, exit, here ▸ beside⟩

theorem explored_halt {stop : Stop} (exit : stop = .exit → w.ExitBeside w.player.position) :
    Explored w (w.halt stop) := by
  cases stop with
  | exit =>
    exact ⟨⟨rfl, rfl, rfl, rfl, rfl⟩, rfl, .refl,
      fun _ => .inr ⟨w.player.position, .refl, exit rfl⟩⟩
  | blocked name => exact ⟨⟨rfl, rfl, rfl, rfl, rfl⟩, rfl, .refl, .inl⟩
  | wall => exact ⟨⟨rfl, rfl, rfl, rfl, rfl⟩, rfl, .refl, .inl⟩
  | edge => exact ⟨.refl w, rfl, .refl, .inl⟩

theorem explored_placePlayer {p : Position} (adjoins : w.Adjoins w.player.position p) :
    Explored w (w.placePlayer p) :=
  ⟨⟨rfl, rfl, rfl, rfl, rfl⟩, rfl, .single adjoins, .inl⟩

/-- However long a walk by single steps is, it stays in the region of its start. -/
theorem explored_walk (placed : w.WellPlaced) {dx dy : Int} (unit : dx.natAbs + dy.natAbs = 1)
    (repeats taken : Nat) : Explored w (w.walk dx dy repeats taken).2 := by
  induction repeats generalizing taken w with
  | zero => exact ⟨.refl w, rfl, .refl, .inl⟩
  | succ repeats ih =>
    have beside := Position.beside_plus_iff (p := w.player.position).mpr unit
    by_cases free : w.IsFree (w.player.position.plus dx dy)
    · rw [placed.walk_of_free unit free]
      have first := explored_placePlayer ⟨placed.player_free, free, beside⟩
      exact first.trans (ih (first.wellPlaced placed) (taken + 1))
    · obtain ⟨stop, meets⟩ := exists_meets free
      rw [placed.walk_of_meets unit meets]
      refine explored_halt ?_
      rintro rfl
      exact placed.exitBeside_of_meets beside meets

theorem explored_move (placed : w.WellPlaced) {m : Move} (unit : m.dx.natAbs + m.dy.natAbs = 1) :
    Explored w (w.move m).2 := by
  have aura : Explored w { w with aura := decide (m.count > 1) || w.efficient } :=
    ⟨⟨rfl, rfl, rfl, rfl, rfl⟩, rfl, .refl, .inl⟩
  exact aura.trans (explored_walk (aura.wellPlaced placed) unit m.repeats 0)

end Walks

end World
end GridRunner
