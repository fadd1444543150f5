import GridRunner.Proofs.Console.Placement
import GridRunner.Proofs.World.Picture

/-! # Pictures over whole runs

The player is drawn as `@` from the start on, and between two loads entities only vanish.  So the
picture of a level just loaded is its map, and every later picture can be told from the map, the
player's cell and the cells that something has left.
-/

namespace GridRunner
namespace Game

open World (Thins)

theorem run_symbol (rules : Rules) (steps : List Step) :
    ((start rules).run steps).world.player.symbol = '@' := by
  obtain ⟨p, player⟩ := run_player rules steps
  rw [player]
  rfl

def Dwindles (level : Level) (g : Game) : Prop :=
  ∃ (layout : Layout) (w₀ : World),
    level.layout g.rules = .ok layout ∧ Thins (w₀.enter layout) g.world

theorem dwindles_load {g loaded : Game} {level : Level} (h : g.load level = .ok loaded) :
    Dwindles level loaded := by
  obtain ⟨layout, read, rfl⟩ := load_eq_ok h
  exact ⟨layout, g.world, read, rfl, rfl, rfl, List.Sublist.refl _, List.Sublist.refl _⟩

theorem dwindles_step {g : Game} {level : Level} {s : Step} (plays : s.Plays)
    (h : Dwindles level g) : Dwindles level (g.step s) := by
  obtain ⟨layout, w₀, read, thins⟩ := h
  exact ⟨layout, w₀, by rw [step_rules, read], thins.trans (g.step_thins plays)⟩

theorem dwindles_run {g : Game} {steps : List Step} {level : Level}
    (h : g.lastLoad? steps = some level) : Dwindles level (g.run steps) :=
  run_since_load (fun _ _ _ => dwindles_load) (fun _ _ _ => dwindles_step) h

theorem picture_load {rules : Rules} {steps : List Step} {level : Level} {loaded : Game}
    (h : ((start rules).run steps).load level = .ok loaded) :
    loaded.world.picture = level.map := by
  obtain ⟨layout, read, rfl⟩ := load_eq_ok h
  exact World.picture_enter read (run_symbol rules steps)

theorem pictured_run {rules : Rules} {steps : List Step} {level : Level}
    (h : (start rules).lastLoad? steps = some level) :
    ∃ layout, level.layout rules = .ok layout ∧
      World.Pictured level layout ((start rules).run steps).world := by
  obtain ⟨layout, w₀, read, thins⟩ := dwindles_run h
  rw [run_rules] at read
  exact ⟨layout, read, (onMap_run h).wellPlaced.pictured read thins (run_symbol rules steps)⟩

end Game

namespace Console

/-- Whatever was done before, the picture of a level just loaded is its map; and whatever is done
after, it shows the player over the entities over the tiles. -/
theorem picture_run (rules : Rules) (operations : List Operation) :
    let g := ((Console.start rules).run operations).game
    (∀ level loaded, g.load level = .ok loaded → loaded.world.picture = level.map) ∧
      ∀ level, (Console.start rules).lastLoad? operations = some level →
        ∃ layout, level.layout rules = .ok layout ∧ World.Pictured level layout g.world := by
  intro g
  have steps : g = (Game.start rules).run ((Console.start rules).script operations) :=
    run_game (Console.start rules) operations
  rw [steps]
  refine ⟨fun level loaded => Game.picture_load, ?_⟩
  intro level last
  rw [lastLoad?_eq] at last
  exact Game.pictured_run last

theorem picture_run_vault :
    let level : Level :=
      { number := 1, name := "Vault", instructions := "", map := .ofRows ["#@aA#", "#GBR>"] }
    let operations : List Operation :=
      [.load level, .keys [.char 'y', .char 'l', .char '3', .char 'd', .char 'd'],
        .load { level with map := [] }]
    let g := ((Console.start {}).run operations).game
    (Console.start {}).lastLoad? operations = some level ∧
      g.world.picture = .ofRows ["#.@A#", "#.BR>"] ∧
      (∃ layout, level.layout {} = .ok layout ∧ World.Pictured level layout g.world) ∧
      ∃ again, g.load level = .ok again ∧ again.world.picture = level.map := by
  intro level operations g
  have last : (Console.start {}).lastLoad? operations = some level := by decide +kernel
  have shown : g.world.picture = .ofRows ["#.@A#", "#.BR>"] := by decide +kernel
  have accepted : (g.load level).isOk = true := by decide +kernel
  obtain ⟨loading, playing⟩ := picture_run {} operations
  refine ⟨last, shown, playing level last, ?_⟩
  cases loaded : g.load level with
  | error fault =>
    rw [loaded] at accepted
    cases accepted
  | ok again => exact ⟨again, rfl, loading level again loaded⟩

end Console
end GridRunner
