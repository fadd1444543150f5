import GridRunner.Proofs.Console.Script
import GridRunner.Proofs.Level.Faults
import GridRunner.Proofs.Level.Markers

/-! # Loading a level

A load is settled by the map alone.  A map that is refused is refused for the first of its faults
and changes nothing; one that is accepted is decoded cell by cell (`Decodes`).
-/

namespace GridRunner

/-! ## Decoded maps -/

/-- The world is what the map shows. -/
structure World.Decodes (rules : Rules) (map : Grid) (w : World) : Prop where
  width : w.width = map.width
  height : w.height = map.height
  /-- The player stands where its one marker was. -/
  player : ∀ p, map.glyph? p = some '@' ↔ p = w.player.position
  hostiles : ∀ e, e ∈ w.hostiles ↔ ∃ p,
    (map.glyph? p = some 'G' ∧ e = .enemy p rules.enemyHp) ∨
      (map.glyph? p = some 'B' ∧ e = .boss p rules.bossHp)
  hostiles_ordered : w.hostiles.Pairwise fun a b => a.position.Before b.position
  fixtures : ∀ e, e ∈ w.fixtures ↔ ∃ p c, map.glyph? p = some c ∧
    ((c = '>' ∧ e = .exit p) ∨ (c = 'R' ∧ e = .rubble p) ∨
      (Letter.isLower c = true ∧ e = .key p c) ∨
      (Letter.isUpper c = true ∧ c ∉ Marker.reserved ∧ e = .lock p c))
  fixtures_ordered : w.fixtures.Pairwise fun a b => a.position.Before b.position
  /-- There is floor under every marker, and every other cell keeps its glyph. -/
  tiles : ∀ p, w.tiles.glyph? p = (map.glyph? p).map fun c =>
    if c ∈ Marker.reserved ∨ Letter.isLower c = true ∨ Letter.isUpper c = true then Grid.floor
    else c
  rows : w.tiles.map List.length = map.map List.length

theorem World.Decodes.note {rules : Rules} {map : Grid} {w : World} (h : w.Decodes rules map)
    (message : String) : (w.note message).Decodes rules map := { h with }

theorem World.decodes_enter {rules : Rules} {level : Level} {layout : Layout}
    (read : level.layout rules = .ok layout) (w : World) :
    (w.enter layout).Decodes rules level.map := by
  obtain ⟨-, player, spawns, rfl⟩ := Level.layout_eq_ok_iff.mp read
  constructor
  case width => rfl
  case height => rfl
  case player =>
    intro p
    rw [← Grid.mem_spawns_iff_glyph?, spawns, List.mem_singleton]
    rfl
  case hostiles => exact fun _ => Grid.mem_hostiles_iff
  case fixtures => exact fun _ => Grid.mem_fixtures_iff
  case hostiles_ordered =>
    exact Grid.placed_pairwise level.map fun _ _ placed => (Marker.hostile?_eq_some placed).1
  case fixtures_ordered =>
    exact Grid.placed_pairwise level.map fun _ _ placed => (Marker.fixture?_eq_some placed).1
  case tiles =>
    intro p
    have bare := level.map.glyph?_bare p
    simp only [Marker.isSome_ofGlyph?_iff] at bare
    exact bare
  case rows => exact level.map.map_length_bare

namespace Console

/-- A level is loaded if and only if its map can be played, and the world is then what the map
shows.  Otherwise the first fault of the map is reported, and nothing changes. -/
theorem load_settled (c : Console) (level : Level) :
    ((c.step (.load level)).1 = .done ↔ level.map.Playable) ∧
      (level.map.Playable →
        (c.step (.load level)).2.game.world.Decodes c.game.rules level.map) ∧
      (¬ level.map.Playable → ∃ fault : Level.Fault, fault.First level.map) ∧
      ∀ fault : Level.Fault, fault.First level.map →
        c.step (.load level) = (.refused fault, c) := by
  cases loaded : c.game.load level with
  | ok game =>
    have step : c.step (.load level) = (.done, { c with game }) := by rw [Console.step, loaded]
    obtain ⟨layout, read, rfl⟩ := Game.load_eq_ok loaded
    have playable := (Level.layout_eq_ok_iff.mp read).1
    rw [step]
    refine ⟨by simp [playable], fun _ => ?_, fun refused => ?_, fun fault first => ?_⟩
    · exact (World.decodes_enter read c.game.world).note _
    · exact (refused playable).elim
    · exact (Level.not_blames_of_playable playable fault first.blames).elim
  | error fault =>
    have step : c.step (.load level) = (.refused fault, c) := by rw [Console.step, loaded]
    have first := Level.layout_eq_error_iff.mp (Game.load_eq_error_iff.mp loaded)
    have refused : ¬ level.map.Playable := fun playable =>
      Level.not_blames_of_playable playable fault first.blames
    rw [step]
    refine ⟨by simp [refused], fun playable => ?_, fun _ => ⟨fault, first⟩, fun other first' => ?_⟩
    · exact (refused playable).elim
    · rw [first.unique first']

/-- A map with one player and foreign letters is decoded; one that is ragged and has two players is
refused for the row, and the chord typed so far stays. -/
theorem load_settled_letters_then_ragged :
    let letters : Level :=
      { number := 1, name := "Letters", instructions := "", map := .ofRows ["#@ñG", "É>BR"] }
    let ragged : Level := { letters with map := .ofRows ["@@", "."] }
    let c := (start {}).run [.load letters, .keys [.char '2', .char 'd']]
    (c.step (.load letters)).1 = .done ∧
      (c.step (.load letters)).2.game.world.Decodes {} letters.map ∧
      (.key ⟨2, 0⟩ 'ñ') ∈ (c.step (.load letters)).2.game.world.fixtures ∧
      c.step (.load ragged) = (.refused (.raggedRow 1 2 1), c) := by
  intro letters ragged c
  have playable : letters.map.Playable := by decide +kernel
  have foreign : letters.map.glyph? ⟨2, 0⟩ = some 'ñ' := by decide +kernel
  have lower : Letter.isLower 'ñ' = true := by decide +kernel
  have settled := load_settled c letters
  have decodes := settled.2.1 playable
  have refused : ragged.layout {} = .error (.raggedRow 1 2 1) := by decide +kernel
  have first := Level.layout_eq_error_iff.mp refused
  exact ⟨settled.1.mpr playable, decodes,
    (decodes.fixtures _).mpr ⟨⟨2, 0⟩, 'ñ', foreign, .inr (.inr (.inl ⟨lower, rfl⟩))⟩,
    (load_settled c ragged).2.2.2 _ first⟩

end Console
end GridRunner
