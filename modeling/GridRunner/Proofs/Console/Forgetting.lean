import GridRunner.Proofs.Console.History
import GridRunner.Proofs.Console.Placement

/-! # What a level forgets

Of all that was done before, a level just loaded keeps the registers and the message log, and the
log is never read.  So once two games with the same registers have loaded the same level, whatever
is done to both has the same answers and keeps them the same apart from the log.
-/

namespace GridRunner

namespace Game

def relog (log : MessageLog) (g : Game) : Game := { g with world := g.world.relog log }

end Game

namespace Console

def relog (log : MessageLog) (c : Console) : Console := { c with game := c.game.relog log }

theorem run_relog (log : MessageLog) (c : Console) (operations : List Operation) :
    (c.relog log).replies operations = c.replies operations ∧
      ∃ log', (c.relog log).run operations = (c.run operations).relog log' := by
  obtain ⟨told, chronicle⟩ := exists_chronicle c operations
  have same : c.keeping c.game.rules.capacity log = c.relog log := rfl
  obtain ⟨answers, ran⟩ := Prod.mk.inj (chronicle.tells c.game.rules.capacity log)
  refine ⟨answers, told.foldl MessageLog.push log, ?_⟩
  rw [← same, ran, ← run_rules c operations]
  rfl

theorem run_player (rules : Rules) (operations : List Operation) :
    ∃ p, ((start rules).run operations).game.world.player = .player p rules.playerHp := by
  rw [run_game]
  exact Game.run_player rules _

/-- With equal registers, the same level is the same game once loaded, apart from the log. -/
theorem eq_relog_of_load {rules : Rules} {before before' : List Operation} {level : Level}
    {a b : Game}
    (registers : ((start rules).run before).game.world.registers =
      ((start rules).run before').game.world.registers)
    (loaded : ((start rules).run before).game.load level = .ok a)
    (loaded' : ((start rules).run before').game.load level = .ok b) :
    b = a.relog b.world.log := by
  obtain ⟨layout, read, rfl⟩ := Game.load_eq_ok loaded
  obtain ⟨layout', read', rfl⟩ := Game.load_eq_ok loaded'
  obtain ⟨p, player⟩ := run_player rules before
  obtain ⟨p', player'⟩ := run_player rules before'
  rw [run_rules] at read read'
  rw [read, Except.ok.injEq] at read'
  subst read'
  -- Entering a level keeps the rules, the registers and the strength of the player, equal in both.
  simp only [Game.relog, World.relog, World.enter, World.note, run_rules, registers, player,
    player']
  rfl

/-- Whatever was done before, a level that two games have loaded with the same registers is played
alike in both: the same is answered to whatever is done, and all but the log stays the same. -/
theorem load_forgets {rules : Rules} {before before' : List Operation} {level : Level} {a b : Game}
    (registers : ((start rules).run before).game.world.registers =
      ((start rules).run before').game.world.registers)
    (loaded : ((start rules).run before).game.load level = .ok a)
    (loaded' : ((start rules).run before').game.load level = .ok b)
    (chord : Chord) (later : List Operation) :
    (Console.mk a chord).replies later = (Console.mk b chord).replies later ∧
      ∃ log, (Console.mk b chord).run later = ((Console.mk a chord).run later).relog log := by
  have same : Console.mk b chord = (Console.mk a chord).relog b.world.log :=
    congrArg (Console.mk · chord) (eq_relog_of_load registers loaded loaded')
  obtain ⟨answers, log, ran⟩ := run_relog b.world.log (Console.mk a chord) later
  rw [same]
  exact ⟨answers.symm, log, ran⟩

/-- The same key yanked in two ways, the second time without a count, an aura or a new mode. -/
theorem load_forgets_yanked :
    let vault : Level :=
      { number := 1, name := "Vault", instructions := "", map := .ofRows ["@a..", "G.>."] }
    let next : Level :=
      { number := 2, name := "Next", instructions := "", map := .ofRows ["@A>"], par := 2 }
    let before : List Operation :=
      [.load vault, .keys [.char '"', .char 'x', .char 'y', .char '3', .char 'd', .char 'd'],
        .keys [.char '5', .char 'l', .char 'v'], .finish]
    let before' : List Operation := [.say "hello", .load vault, .perform (.yank 'x')]
    let chord : Chord := { digits := ['2'] }
    let later : List Operation :=
      [.keys [.char '"', .char 'x', .char 'p', .char 'l'], .walk 1 0 2, .load vault]
    ∃ a b : Game,
      ((start {}).run before).game.world.registers = ((start {}).run before').game.world.registers ∧
      ((start {}).run before).game.load next = .ok a ∧
      ((start {}).run before').game.load next = .ok b ∧
      (Console.mk a chord).replies later = (Console.mk b chord).replies later ∧
      ∃ log, (Console.mk b chord).run later = ((Console.mk a chord).run later).relog log := by
  intro vault next before before' chord later
  have registers : ((start {}).run before).game.world.registers =
      ((start {}).run before').game.world.registers := by decide +kernel
  have opens : ∃ a, ((start {}).run before).game.load next = .ok a :=
    Game.exists_load_iff.mpr (by decide)
  have opens' : ∃ b, ((start {}).run before').game.load next = .ok b :=
    Game.exists_load_iff.mpr (by decide)
  obtain ⟨a, loaded⟩ := opens
  obtain ⟨b, loaded'⟩ := opens'
  exact ⟨a, b, registers, loaded, loaded', load_forgets registers loaded loaded' chord later⟩

end Console
end GridRunner
