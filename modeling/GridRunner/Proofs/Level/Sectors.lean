import GridRunner.Curriculum
import GridRunner.Proofs.Level.Playable

/-! # Training sectors

The map of a sector marks the player, the sentries in every other column from the fifth, the boss
if there is one, and the exit (`rowMarks_corridor`).  Everything else between its walls is floor,
and it can be played if it is not too wide (`playable_sector_iff`).
-/

namespace GridRunner

namespace Grid

/-- The marked cells of a row, its first column having the given number. -/
def rowMarks (x y : Nat) (row : List Char) : List (Position × Marker) :=
  (row.zipIdx x).filterMap fun cell =>
    (Marker.ofGlyph? cell.1).map fun marker => (⟨cell.2, y⟩, marker)

theorem marks_eq (g : Grid) : g.marks = g.zipIdx.flatMap fun (row, y) => rowMarks 0 y row := by
  rw [marks, cells, List.filterMap_flatMap]
  refine List.flatMap_congr ?_
  rintro ⟨row, y⟩ -
  unfold rowMarks
  dsimp only
  rw [rowCells, List.filterMap_map]
  rfl

theorem rowMarks_append (x y : Nat) (front back : List Char) :
    rowMarks x y (front ++ back) = rowMarks x y front ++ rowMarks (x + front.length) y back := by
  rw [rowMarks, List.zipIdx_append, List.filterMap_append]
  rfl

theorem rowMarks_cons (x y : Nat) (glyph : Char) (row : List Char) :
    rowMarks x y (glyph :: row) =
      ((Marker.ofGlyph? glyph).map fun marker => ((⟨x, y⟩ : Position), marker)).toList ++
        rowMarks (x + 1) y row := by
  rw [rowMarks, List.zipIdx_cons, List.filterMap_cons]
  dsimp only
  cases Marker.ofGlyph? glyph <;> rfl

/-- There are no markers among glyphs that are none. -/
theorem rowMarks_eq_nil (x y : Nat) {row : List Char}
    (plain : ∀ glyph ∈ row, Marker.ofGlyph? glyph = none) : rowMarks x y row = [] := by
  rw [rowMarks, List.filterMap_eq_nil_iff]
  rintro ⟨glyph, column⟩ member
  have none := plain glyph (List.fst_mem_of_mem_zipIdx member)
  rw [none, Option.map_none]

end Grid

namespace Curriculum

def bosses (number : Nat) : Nat := if number % 10 = 0 then 1 else 0

def post (i : Nat) : Position := ⟨5 + 2 * i, 1⟩

/-- The guards of a sector from left to right, the boss behind the sentries. -/
def guards (rules : RuleSheet) (number : Nat) : List Entity :=
  (List.range' 0 (sentries number)).map (fun i => .enemy (post i) rules.enemyHp) ++
    (List.range' (sentries number) (bosses number)).map fun i => .boss (post i) rules.bossHp

def gate (number : Nat) : Position := ⟨7 + 2 * sentries number + 2 * bosses number, 1⟩

theorem length_guards (rules : RuleSheet) (number : Nat) :
    (guards rules number).length = sentries number + bosses number := by
  simp [guards]

theorem positions_guards (rules : RuleSheet) (number : Nat) :
    (guards rules number).map Entity.position =
      (List.range' 0 (sentries number + bosses number)).map post := by
  rw [guards, List.map_append, List.map_map, List.map_map, ← List.range'_append_1, Nat.zero_add,
    List.map_append]
  rfl

/-! ## The map -/

theorem boss_cells (number : Nat) :
    (if number % 10 = 0 then ['B', '.'] else []) =
      (List.replicate (bosses number) ['B', '.']).flatten := by
  unfold bosses
  split <;> rfl

theorem corridor_eq (number : Nat) :
    corridor number =
      ['@', '.', '.', '.'] ++ (List.replicate (sentries number) ['G', '.']).flatten ++
        (List.replicate (bosses number) ['B', '.']).flatten ++ ['.', '.', '>'] := by
  rw [corridor, boss_cells]

theorem length_cells (count : Nat) (glyph : Char) :
    (List.replicate count [glyph, '.']).flatten.length = 2 * count := by
  rw [List.length_flatten, List.map_replicate, List.sum_replicate_nat, Nat.mul_comm]
  rfl

theorem length_corridor (number : Nat) :
    (corridor number).length = 7 + 2 * sentries number + 2 * bosses number := by
  simp only [corridor_eq, List.length_append, List.length_cons, List.length_nil, length_cells]
  omega

theorem width_sector (number : Nat) :
    (sector number).map.width = 9 + 2 * sentries number + 2 * bosses number := by
  have wall : (sector number).map.width = (corridor number).length + 2 := List.length_replicate
  rw [wall, length_corridor]
  omega

theorem height_sector (number : Nat) : (sector number).map.height = 3 := rfl

/-- Guards in every other column. -/
theorem rowMarks_guards {glyph : Char} {marker : Marker}
    (marks : Marker.ofGlyph? glyph = some marker) (k count : Nat) :
    Grid.rowMarks (5 + 2 * k) 1 (List.replicate count [glyph, '.']).flatten =
      (List.range' k count).map fun i => (post i, marker) := by
  induction count generalizing k with
  | zero => rfl
  | succ count ih =>
    rw [List.replicate_succ, List.flatten_cons, Grid.rowMarks_append, List.range'_succ,
      List.map_cons]
    have first : Grid.rowMarks (5 + 2 * k) 1 [glyph, '.'] = [(post k, marker)] := by
      have bare : Marker.ofGlyph? '.' = none := by decide
      rw [Grid.rowMarks_cons, Grid.rowMarks_cons, marks, bare]
      simp [Grid.rowMarks, post]
    rw [first, ← ih (k + 1)]
    rfl

theorem rowMarks_corridor (number : Nat) :
    Grid.rowMarks 1 1 (corridor number) =
      [((⟨1, 1⟩ : Position), Marker.player)] ++
        (List.range' 0 (sentries number)).map (fun i => (post i, Marker.enemy)) ++
        (List.range' (sentries number) (bosses number)).map (fun i => (post i, Marker.boss)) ++
        [(gate number, Marker.exit)] := by
  let start := ['@', '.', '.', '.']
  let minions := (List.replicate (sentries number) ['G', '.']).flatten
  let chiefs := (List.replicate (bosses number) ['B', '.']).flatten
  have enemy : Marker.ofGlyph? 'G' = some .enemy := by decide
  have player : Grid.rowMarks 1 1 start = [(⟨1, 1⟩, .player)] := by decide
  have enemies : Grid.rowMarks (1 + start.length) 1 minions =
      (List.range' 0 (sentries number)).map fun i => (post i, .enemy) :=
    rowMarks_guards enemy 0 (sentries number)
  have behind : 1 + (start ++ minions).length = 5 + 2 * sentries number := by
    simp only [start, minions, List.length_append, List.length_cons, List.length_nil, length_cells]
    omega
  have boss : Grid.rowMarks (1 + (start ++ minions).length) 1 chiefs =
      (List.range' (sentries number) (bosses number)).map fun i => (post i, .boss) := by
    rw [behind]
    exact rowMarks_guards (by decide) (sentries number) (bosses number)
  have last : 1 + (start ++ minions ++ chiefs).length =
      5 + 2 * sentries number + 2 * bosses number := by
    simp only [start, minions, chiefs, List.length_append, List.length_cons, List.length_nil,
      length_cells]
    omega
  have exit (x : Nat) : Grid.rowMarks x 1 ['.', '.', '>'] = [(⟨x + 2, 1⟩, .exit)] := by
    have floor : Marker.ofGlyph? '.' = none := by decide
    have gate : Marker.ofGlyph? '>' = some .exit := by decide
    have column : ((x + 1 + 1 : ℕ) : Int) = x + 2 := by omega
    rw [Grid.rowMarks_cons, Grid.rowMarks_cons, Grid.rowMarks_cons, floor, gate, Option.map_some,
      column]
    rfl
  have cell : (⟨((5 + 2 * sentries number + 2 * bosses number : ℕ) : Int) + 2, 1⟩ : Position) =
      gate number := by
    rw [gate, Position.mk.injEq]
    omega
  rw [corridor_eq, Grid.rowMarks_append, Grid.rowMarks_append, Grid.rowMarks_append, player,
    enemies, boss, last, exit, cell]

/-- The walls mark nothing. -/
theorem marks_sector (number : Nat) :
    (sector number).map.marks = Grid.rowMarks 1 1 (corridor number) := by
  have wall (x y count : Nat) : Grid.rowMarks x y (List.replicate count '#') = [] :=
    Grid.rowMarks_eq_nil x y fun glyph member => by
      rw [List.eq_of_mem_replicate member]
      decide
  have middle : ['#'] ++ corridor number ++ ['#'] =
      List.replicate 1 '#' ++ corridor number ++ List.replicate 1 '#' := rfl
  rw [Grid.marks_eq, sector]
  simp only [List.zipIdx_cons, List.zipIdx_nil, List.flatMap_cons, List.flatMap_nil, middle,
    Grid.rowMarks_append, wall, List.nil_append, List.append_nil]
  rfl

/-! ## The level -/

theorem spawns_sector (number : Nat) : (sector number).map.spawns = [⟨1, 1⟩] := by
  simp [Grid.spawns, marks_sector, rowMarks_corridor]

section Layouts

variable (rules : Rules) (number : Nat) (player : Position)

theorem hostiles_sector :
    (Level.layoutFrom rules (sector number).map player).hostiles =
      guards rules.toRuleSheet number := by
  simp [Level.layoutFrom, marks_sector, rowMarks_corridor, guards, Marker.hostile?]

theorem fixtures_sector :
    (Level.layoutFrom rules (sector number).map player).fixtures = [.exit (gate number)] := by
  simp [Level.layoutFrom, marks_sector, rowMarks_corridor, Marker.fixture?]

end Layouts

theorem playable_sector_iff (number : Nat) :
    (sector number).map.Playable ↔
      9 + 2 * sentries number + 2 * bosses number ≤ Rules.maxExtent := by
  rw [← width_sector]
  refine ⟨fun playable => playable.width_le, fun within => ?_⟩
  exact {
    width_pos := by rw [width_sector]; omega
    width_le := within
    height_le := by rw [height_sector]; decide
    rectangular := by
      simp [sector, Grid.width]
    one_player := by rw [← Grid.length_spawns, spawns_sector]; rfl }

theorem sector_tooLarge (rules : Rules) {number : Nat}
    (wide : Rules.maxExtent < 9 + 2 * sentries number + 2 * bosses number) :
    (sector number).layout rules =
      .error (.tooLarge (9 + 2 * sentries number + 2 * bosses number) 3) := by
  simp only [Level.layout]
  rw [width_sector, height_sector, if_neg (by omega), if_pos (.inl wide)]

/-- Every glyph between the walls of a sector is floor or a marker. -/
theorem bare_corridor {number : Nat} {glyph : Char} (member : glyph ∈ corridor number) :
    (if (Marker.ofGlyph? glyph).isSome then Grid.floor else glyph) = Grid.floor := by
  have listed : glyph ∈ ['@', '.', 'G', 'B', '>'] := by
    have start : ['@', '.', '.', '.'] ⊆ ['@', '.', 'G', 'B', '>'] := by decide
    have sentry : ['G', '.'] ⊆ ['@', '.', 'G', 'B', '>'] := by decide
    have boss : ['B', '.'] ⊆ ['@', '.', 'G', 'B', '>'] := by decide
    have gate : ['.', '.', '>'] ⊆ ['@', '.', 'G', 'B', '>'] := by decide
    rw [corridor_eq] at member
    simp only [List.mem_append, List.mem_flatten, List.mem_replicate] at member
    rcases member with ((cell | ⟨_, ⟨-, rfl⟩, cell⟩) | ⟨_, ⟨-, rfl⟩, cell⟩) | cell
    · exact start cell
    · exact sentry cell
    · exact boss cell
    · exact gate cell
  simp only [List.mem_cons, List.not_mem_nil, or_false] at listed
  rcases listed with rfl | rfl | rfl | rfl | rfl <;> decide

/-- The cells between the walls of a sector are floor. -/
theorem floor_sector {number x : Nat} (left : 1 ≤ x)
    (right : x ≤ 7 + 2 * sentries number + 2 * bosses number) :
    (sector number).map.bare.at? x 1 = some Grid.floor := by
  obtain ⟨i, rfl⟩ := Nat.exists_eq_add_of_le' left
  have inside : i < (corridor number).length := by
    rw [length_corridor]
    omega
  have glyph : (sector number).map.at? (i + 1) 1 = some (corridor number)[i] := by
    have row : (sector number).map.at? (i + 1) 1 = (corridor number ++ ['#'])[i]? := rfl
    rw [row, List.getElem?_append_left inside, List.getElem?_eq_getElem inside]
  rw [Grid.at?_bare, glyph, Option.map_some, bare_corridor (List.getElem_mem inside)]

theorem exists_post_of_mem_guards {rules : RuleSheet} {number : Nat} {e : Entity}
    (member : e ∈ guards rules number) :
    ∃ i < sentries number + bosses number, e.position = post i := by
  have position := List.mem_map_of_mem (f := Entity.position) member
  rw [positions_guards, List.mem_map] at position
  obtain ⟨i, within, here⟩ := position
  rw [List.mem_range'_1, Nat.zero_add] at within
  exact ⟨i, within.2, here.symm⟩

theorem guards_spaced (rules : RuleSheet) (number : Nat) :
    (guards rules number).Pairwise fun a b => a.position.x + 1 < b.position.x := by
  have apart : ((guards rules number).map Entity.position).Pairwise fun a b => a.x + 1 < b.x := by
    rw [positions_guards, List.pairwise_map]
    refine List.Pairwise.imp ?_ List.pairwise_lt_range'
    intro a b before
    simp only [post]
    omega
  exact List.pairwise_map.mp apart

end Curriculum
end GridRunner
