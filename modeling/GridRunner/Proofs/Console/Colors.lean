import GridRunner.Proofs.Console.Loading
import GridRunner.Proofs.Console.Picture
import GridRunner.Theme

/-! # Colours of the map

The theme tells from a glyph what its cell holds.  It knows the letters of ASCII only, so the keys
and locks written with other letters are drawn as walls, and every other cell in the colour of what
it holds (`colors_run`).
-/

namespace GridRunner

inductive CellClass where
  | enemy
  | boss
  | exit
  | rubble
  | key
  | lock
  | floor
  | wall
  deriving DecidableEq, Repr

namespace CellClass

/-- The glyphs that stand for the class on a map. -/
def Writes : CellClass → Char → Prop
  | enemy, c => c = 'G'
  | boss, c => c = 'B'
  | exit, c => c = '>'
  | rubble, c => c = 'R'
  | key, c => Letter.isLower c = true
  | lock, c => Letter.isUpper c = true ∧ c ∉ Marker.reserved
  | floor, c => c = Grid.floor
  | wall, c =>
      c ≠ Grid.floor ∧ c ∉ Marker.reserved ∧ Letter.isLower c = false ∧ Letter.isUpper c = false

/-- A key or a lock that is not written with a letter of ASCII. -/
def Foreign (k : CellClass) (c : Char) : Prop := (k = key ∨ k = lock) ∧ 128 ≤ c.toNat

instance (k : CellClass) (c : Char) : Decidable (k.Foreign c) :=
  inferInstanceAs (Decidable (_ ∧ _))

/-- The classes that are told by the case of their glyph. -/
def IsPlain (k : CellClass) : Prop := k = key ∨ k = lock ∨ k = wall

theorem Writes.plain {k : CellClass} {c : Char} (writes : k.Writes c) (plain : k.IsPlain) :
    (c ∉ Marker.reserved ∧ c ≠ Grid.floor) ∧
      (Letter.isLower c = true ↔ k = key) ∧ (Letter.isUpper c = true ↔ k = lock) := by
  have floor : Letter.isLower Grid.floor = false ∧ Letter.isUpper Grid.floor = false := by
    decide +kernel
  rcases plain with rfl | rfl | rfl
  · have lower : Letter.isLower c = true := writes
    refine ⟨⟨fun listed => ?_, ?_⟩, by simp [lower], by simp [Letter.not_isUpper_of_isLower lower]⟩
    · rw [Marker.not_isLower_of_reserved listed] at lower
      cases lower
    · rintro rfl
      rw [floor.1] at lower
      cases lower
  · obtain ⟨upper, unlisted⟩ := writes
    refine ⟨⟨unlisted, ?_⟩, ?_, by simp [upper]⟩
    · rintro rfl
      rw [floor.2] at upper
      cases upper
    · simp only [reduceCtorEq, iff_false]
      intro lower
      rw [Letter.not_isUpper_of_isLower lower] at upper
      cases upper
  · obtain ⟨other, unlisted, notLower, notUpper⟩ := writes
    exact ⟨⟨unlisted, other⟩, by simp [notLower], by simp [notUpper]⟩

end CellClass

def Entity.Kind.cellClass? : Entity.Kind → Option CellClass
  | .player => none
  | .enemy => some .enemy
  | .boss => some .boss
  | .exit => some .exit
  | .rubble => some .rubble
  | .key _ => some .key
  | .lock _ => some .lock

/-- What a cell holds: its entity, and otherwise its tile. -/
def World.cellClass? (w : World) (p : Position) : Option CellClass :=
  match w.entityAt? p with
  | some e => e.kind.cellClass?
  | none => (w.tile? p).map fun c => if c = Grid.floor then .floor else .wall

namespace Theme

def classColor (t : Theme) : CellClass → Color
  | .enemy => t.enemy
  | .boss => t.boss
  | .exit => t.exit
  | .rubble => t.rubble
  | .key => t.key
  | .lock => t.lock
  | .floor => t.floor
  | .wall => t.wall

theorem tokyoNight_classColor_injective :
    ∀ {k k' : CellClass}, tokyoNight.classColor k = tokyoNight.classColor k' ↔ k = k' := by
  intro k k'
  cases k <;> cases k' <;> decide

theorem glyph_color_of_plain (t : Theme) {c : Char} (unlisted : c ∉ Marker.reserved)
    (other : c ≠ Grid.floor) :
    (t.glyph c).color = if c.isLower then t.key else if c.isUpper then t.lock else t.wall := by
  unfold glyph
  split
  case h_7 =>
    split
    · rfl
    · split <;> rfl
  case h_6 => exact absurd rfl other
  all_goals exact absurd (by decide) unlisted

theorem glyph_color_of_isPlain (t : Theme) {k : CellClass} {c : Char} (writes : k.Writes c)
    (plain : k.IsPlain) :
    (t.glyph c).color = if k.Foreign c then t.wall else t.classColor k := by
  obtain ⟨⟨unlisted, other⟩, lower, upper⟩ := writes.plain plain
  rw [t.glyph_color_of_plain unlisted other]
  by_cases ascii : c.toNat < 128
  · have known : ¬ k.Foreign c := fun foreign => Nat.not_le.mpr ascii foreign.2
    rw [if_neg known, ← Letter.isLower_of_ascii ascii, ← Letter.isUpper_of_ascii ascii]
    simp only [lower, upper]
    rcases plain with rfl | rfl | rfl <;> rfl
  · have notLower : c.isLower = false := by
      rw [Bool.eq_false_iff, ne_eq, Letter.ascii_isLower_iff]
      omega
    have notUpper : c.isUpper = false := by
      rw [Bool.eq_false_iff, ne_eq, Letter.ascii_isUpper_iff]
      omega
    have foreign : k.Foreign c ↔ k ≠ .wall := by
      rcases plain with rfl | rfl | rfl <;> simp [CellClass.Foreign, Nat.not_lt.mp ascii]
    simp only [notLower, notUpper, foreign, Bool.false_eq_true, if_false]
    by_cases wall : k = .wall
    · rw [if_neg (not_not.mpr wall), wall]
      rfl
    · rw [if_pos wall]

/-- A theme gives every glyph the colour of the class it stands for, but that of a wall to the
letters it does not know. -/
theorem glyph_color (t : Theme) {k : CellClass} {c : Char} (writes : k.Writes c) :
    (t.glyph c).color = if k.Foreign c then t.wall else t.classColor k := by
  cases k with
  | enemy | boss | exit | rubble | floor =>
    cases writes
    rfl
  | key => exact t.glyph_color_of_isPlain writes (.inl rfl)
  | lock => exact t.glyph_color_of_isPlain writes (.inr (.inl rfl))
  | wall => exact t.glyph_color_of_isPlain writes (.inr (.inr rfl))

end Theme

/-! ## Cells of a level in play -/

namespace World

/-- What a map places is drawn with a glyph of its class. -/
theorem Decodes.exists_writes {rules : Rules} {map : Grid} {w : World}
    (decodes : w.Decodes rules map) {e : Entity} (member : e ∈ w.hostiles ++ w.fixtures) :
    ∃ k, e.kind.cellClass? = some k ∧ k.Writes e.symbol := by
  cases List.mem_append.mp member with
  | inl hostile =>
    obtain ⟨p, ⟨-, rfl⟩ | ⟨-, rfl⟩⟩ := (decodes.hostiles e).mp hostile
    · exact ⟨.enemy, rfl, rfl⟩
    · exact ⟨.boss, rfl, rfl⟩
  | inr fixture =>
    obtain ⟨p, c, -, placed⟩ := (decodes.fixtures e).mp fixture
    rcases placed with ⟨-, rfl⟩ | ⟨-, rfl⟩ | ⟨lower, rfl⟩ | ⟨upper, unlisted, rfl⟩
    · exact ⟨.exit, rfl, rfl⟩
    · exact ⟨.rubble, rfl, rfl⟩
    · exact ⟨.key, rfl, lower⟩
    · exact ⟨.lock, rfl, upper, unlisted⟩

/-- A tile is floor, or a glyph that stands for nothing. -/
theorem Decodes.tile_writes {rules : Rules} {map : Grid} {w : World}
    (decodes : w.Decodes rules map) {p : Position} {c : Char} (tile : w.tiles.glyph? p = some c) :
    (if c = Grid.floor then CellClass.floor else .wall).Writes c := by
  rw [decodes.tiles, Option.map_eq_some_iff] at tile
  obtain ⟨glyph, -, shown⟩ := tile
  by_cases floor : c = Grid.floor
  · rw [if_pos floor]
    exact floor
  · rw [if_neg floor]
    by_cases marked : glyph ∈ Marker.reserved ∨ Letter.isLower glyph = true ∨
        Letter.isUpper glyph = true
    · rw [if_pos marked] at shown
      exact absurd shown.symm floor
    · rw [if_neg marked] at shown
      subst shown
      simp only [not_or, Bool.not_eq_true] at marked
      exact ⟨floor, marked⟩

section Played

variable {rules : Rules} {level : Level} {layout : Layout} {w₀ w : World}

theorem exists_cellClass (placed : w.WellPlaced) (read : level.layout rules = .ok layout)
    (thins : Thins (w₀.enter layout) w) {p : Position} (inside : w.contains p = true) :
    ∃ c k, ((w.entityAt? p).map Entity.symbol).or (w.tile? p) = some c ∧
      w.cellClass? p = some k ∧ k.Writes c := by
  have decodes := decodes_enter read w₀
  obtain ⟨tile, shown, tile?⟩ := placed.exists_tile inside
  rw [thins.tiles] at shown
  cases found : w.entityAt? p with
  | none =>
    refine ⟨tile, _, by rw [tile?]; rfl, ?_, decodes.tile_writes shown⟩
    simp [cellClass?, found, tile?]
  | some e =>
    obtain ⟨e₀, member, -, kind, symbol⟩ :=
      Thins.exists_before thins.entities (mem_of_entityAt? found).1
    obtain ⟨k, held, writes⟩ := decodes.exists_writes member
    rw [kind] at held
    rw [symbol] at writes
    exact ⟨e.symbol, k, rfl, by rw [cellClass?, found]; exact held, writes⟩

end Played
end World

namespace Console

/-- Away from the player, every cell of a level in play is drawn in the colour of what it holds, and
of nothing else, unless it is a key or a lock written with a letter beyond ASCII.  Such a cell is
drawn as a wall. -/
theorem colors_run (rules : Rules) (operations : List Operation) (level : Level)
    (loaded : (start rules).lastLoad? operations = some level) (p : Position)
    (inside : ((start rules).run operations).game.world.contains p = true)
    (other : p ≠ ((start rules).run operations).game.world.player.position) :
    let w := ((start rules).run operations).game.world
    ∃ glyph held, w.picture.glyph? p = some glyph ∧ w.cellClass? p = some held ∧
      ((∀ k, (Theme.tokyoNight.glyph glyph).color = Theme.tokyoNight.classColor k ↔ held = k) ↔
        ¬ held.Foreign glyph) ∧
      (held.Foreign glyph → (Theme.tokyoNight.glyph glyph).color = Theme.tokyoNight.wall) := by
  intro w
  have placed : w.WellPlaced := (onMap_run loaded).wellPlaced
  have game : ((start rules).run operations).game =
      (Game.start rules).run ((start rules).script operations) := run_game _ _
  rw [lastLoad?_eq] at loaded
  have dwindles : Game.Dwindles level ((start rules).run operations).game :=
    game ▸ Game.dwindles_run loaded
  obtain ⟨entered, w₀, read, thins⟩ := dwindles
  obtain ⟨layout, -, pictured⟩ := Game.pictured_run loaded
  rw [← game] at pictured
  obtain ⟨glyph, held, shown, holds, writes⟩ := World.exists_cellClass placed read thins inside
  have color := Theme.tokyoNight.glyph_color writes
  refine ⟨glyph, held, ?_, holds, ⟨fun agree foreign => ?_, fun known k => ?_⟩, fun foreign => ?_⟩
  · rw [pictured.layers p inside, if_neg other]
    exact shown
  · rw [if_pos foreign] at color
    have wall : held = .wall := (agree .wall).mp color
    rcases foreign.1 with key | lock
    · rw [wall] at key
      cases key
    · rw [wall] at lock
      cases lock
  · rw [color, if_neg known]
    exact Theme.tokyoNight_classColor_injective
  · rw [color, if_pos foreign]

/-- Of two keys side by side, the one with an accent is drawn as a wall. -/
theorem colors_run_accent :
    let level : Level :=
      { number := 1, name := "Accent", instructions := "", map := .ofRows ["@éa>"] }
    let w := ((start {}).run [.load level]).game.world
    w.cellClass? ⟨1, 0⟩ = some .key ∧ w.cellClass? ⟨2, 0⟩ = some .key ∧
      (Theme.tokyoNight.glyph 'é').color = Theme.tokyoNight.wall ∧
      ∀ k, (Theme.tokyoNight.glyph 'a').color = Theme.tokyoNight.classColor k ↔ .key = k := by
  intro level w
  have loaded : (start {}).lastLoad? [.load level] = some level := by decide +kernel
  have accent := colors_run {} [.load level] level loaded ⟨1, 0⟩ (by decide +kernel)
    (by decide +kernel)
  have plain := colors_run {} [.load level] level loaded ⟨2, 0⟩ (by decide +kernel)
    (by decide +kernel)
  have holds : w.cellClass? ⟨1, 0⟩ = some .key := by decide +kernel
  have holds' : w.cellClass? ⟨2, 0⟩ = some .key := by decide +kernel
  have shown : w.picture.glyph? ⟨1, 0⟩ = some 'é' := by decide +kernel
  have shown' : w.picture.glyph? ⟨2, 0⟩ = some 'a' := by decide +kernel
  obtain ⟨glyph, held, drawn, holding, -, wall⟩ := accent
  obtain ⟨glyph', held', drawn', holding', known, -⟩ := plain
  cases drawn.symm.trans shown
  cases holding.symm.trans holds
  cases drawn'.symm.trans shown'
  cases holding'.symm.trans holds'
  exact ⟨holds, holds', wall (by decide), known.mpr (by decide)⟩

/-- The cell holds a key, and its glyph does not have the colour of keys. -/
theorem foreign_key_shown_as_wall :
    let level : Level :=
      { number := 1, name := "Accent", instructions := "Go.", map := .ofRows ["@é>"], par := 1 }
    let w := ((start {}).run [.load level]).game.world
    (start {}).lastLoad? [.load level] = some level ∧
      w.contains ⟨1, 0⟩ = true ∧ w.player.position = ⟨0, 0⟩ ∧
      (w.entityAt? ⟨1, 0⟩).map Entity.kind = some (.key 'é') ∧
      w.picture.glyph? ⟨1, 0⟩ = some 'é' ∧
      (Theme.tokyoNight.glyph 'é').color = Theme.tokyoNight.wall ∧
      (Theme.tokyoNight.glyph 'é').color ≠ Theme.tokyoNight.key := by
  decide +kernel

end Console
end GridRunner
