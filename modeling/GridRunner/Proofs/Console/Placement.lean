import GridRunner.Proofs.Console.Script
import GridRunner.Proofs.World.Placement

/-! # Placement over whole runs

Between two loads no step changes the grid, no entity moves, and the player stays on free
cells, whatever is done to the game and in whatever order.
-/

namespace GridRunner
namespace Game

open World (Thins)

theorem step_thins (g : Game) {s : Step} (plays : s.Plays) : Thins g.world (g.step s).world := by
  cases s with
  | load level => exact absurd rfl (plays level)
  | apply action =>
    have counted := World.perform_thins g.rules action
      { g.world with keystrokes := capped (g.world.keystrokes + 1) }
    exact ⟨counted.tiles, counted.width, counted.height, counted.hostiles, counted.fixtures⟩
  | perform action => exact World.perform_thins g.rules action g.world
  | say message => exact ⟨rfl, rfl, rfl, List.Sublist.refl _, List.Sublist.refl _⟩
  | finish => exact ⟨rfl, rfl, rfl, List.Sublist.refl _, List.Sublist.refl _⟩
  | setMode mode => exact ⟨rfl, rfl, rfl, List.Sublist.refl _, List.Sublist.refl _⟩

theorem step_player (g : Game) {s : Step} (plays : s.Plays) :
    (g.step s).world.player.position = g.world.player.position ∨
      g.world.Admits (g.step s).world.player.position := by
  cases s with
  | load level => exact absurd rfl (plays level)
  | apply action =>
    exact World.perform_player g.rules action
      { g.world with keystrokes := capped (g.world.keystrokes + 1) }
  | perform action => exact World.perform_player g.rules action g.world
  | say message => exact Or.inl rfl
  | finish => exact Or.inl rfl
  | setMode mode => exact Or.inl rfl

theorem step_player_eq (g : Game) (s : Step) :
    ∃ p, (g.step s).world.player = { g.world.player with position := p } := by
  cases s with
  | load level =>
    rw [step]
    cases loaded : g.load level with
    | error fault => exact ⟨g.world.player.position, rfl⟩
    | ok after =>
      obtain ⟨layout, -, rfl⟩ := load_eq_ok loaded
      exact ⟨layout.player, rfl⟩
  | apply action =>
    exact (World.perform_spares g.rules action
      { g.world with keystrokes := capped (g.world.keystrokes + 1) }).player
  | perform action => exact (World.perform_spares g.rules action g.world).player
  | say message => exact ⟨g.world.player.position, rfl⟩
  | finish => exact ⟨g.world.player.position, rfl⟩
  | setMode mode => exact ⟨g.world.player.position, rfl⟩

/-- Whatever happens, the player is the one of the start, in some place. -/
theorem run_player (rules : Rules) (steps : List Step) :
    ∃ p, ((start rules).run steps).world.player = .player p rules.playerHp := by
  apply run_preserves (P := fun g => ∃ p, g.world.player = .player p rules.playerHp) ⟨.origin, rfl⟩
  rintro s - g ⟨p, player⟩
  obtain ⟨p', moved⟩ := g.step_player_eq s
  rw [player] at moved
  exact ⟨p', moved⟩

/-- The world is well placed on the bare grid of a level's map. -/
structure OnMap (level : Level) (g : Game) : Prop where
  wellPlaced : g.world.WellPlaced
  tiles : g.world.tiles = level.map.bare
  width : g.world.width = level.map.width
  height : g.world.height = level.map.height

theorem onMap_load {g loaded : Game} {level : Level} (h : g.load level = .ok loaded) :
    OnMap level loaded := by
  obtain ⟨layout, read, rfl⟩ := load_eq_ok h
  have entered := World.wellPlaced_enter read g.world
  obtain ⟨-, player, -, rfl⟩ := Level.layout_eq_ok_iff.mp read
  refine ⟨?_, rfl, rfl, rfl⟩
  exact entered.thin ⟨rfl, rfl, rfl, List.Sublist.refl _, List.Sublist.refl _⟩ entered.player_free

theorem onMap_step {g : Game} {level : Level} {s : Step} (plays : s.Plays) (h : OnMap level g) :
    OnMap level (g.step s) := by
  have thins := g.step_thins plays
  have free : g.world.IsFree (g.step s).world.player.position := by
    cases g.step_player plays with
    | inl stayed => exact stayed ▸ h.wellPlaced.player_free
    | inr entered => exact entered.isFree h.wellPlaced.apart
  exact ⟨h.wellPlaced.thin thins free, thins.tiles.trans h.tiles, thins.width.trans h.width,
    thins.height.trans h.height⟩

theorem onMap_run {g : Game} {steps : List Step} {level : Level}
    (h : g.lastLoad? steps = some level) : OnMap level (g.run steps) :=
  run_since_load (fun _ _ _ => onMap_load) (fun _ _ _ plays => onMap_step plays) h

end Game

namespace Console

theorem onMap_run {rules : Rules} {operations : List Operation} {level : Level}
    (loaded : (start rules).lastLoad? operations = some level) :
    Game.OnMap level ((start rules).run operations).game := by
  rw [lastLoad?_eq] at loaded
  rw [run_game]
  exact Game.onMap_run loaded

/-- However a game is played from its first level on, its world stays well placed on the bare
grid of the level loaded last. -/
theorem wellPlaced_run (rules : Rules) (operations : List Operation) (level : Level)
    (loaded : (Console.start rules).lastLoad? operations = some level) :
    ((Console.start rules).run operations).game.world.WellPlaced ∧
      ((Console.start rules).run operations).game.world.tiles = level.map.bare ∧
      ((Console.start rules).run operations).game.world.width = level.map.width ∧
      ((Console.start rules).run operations).game.world.height = level.map.height := by
  have onMap := onMap_run loaded
  exact ⟨onMap.wellPlaced, onMap.tiles, onMap.width, onMap.height⟩

theorem wellPlaced_run_after_refusal :
    let level : Level :=
      { number := 1, name := "Vault", instructions := "", map := .ofRows ["#@aA#", "#GBR>"] }
    let operations : List Operation :=
      [.load { level with map := .ofRows ["@", ".."] }, .load level, .keys [.char '2', .char 'l'],
        .perform (.move ⟨1, 1, 1, 3⟩), .load { level with map := [] }]
    (Console.start {}).lastLoad? operations = some level ∧
      ((Console.start {}).run operations).game.world.WellPlaced ∧
      ((Console.start {}).run operations).game.world.tiles = level.map.bare ∧
      ((Console.start {}).run operations).game.world.width = level.map.width ∧
      ((Console.start {}).run operations).game.world.height = level.map.height := by
  intro level operations
  have loaded : (Console.start {}).lastLoad? operations = some level := by decide +kernel
  exact ⟨loaded, wellPlaced_run {} operations level loaded⟩

end Console
end GridRunner
