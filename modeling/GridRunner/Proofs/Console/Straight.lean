import GridRunner.Proofs.Console.Aura
import GridRunner.Proofs.Console.Placement
import GridRunner.Proofs.World.Straight

/-! # Straight walks over whole runs

On a level in play, however it got there, a walk by single cells is settled by the cells ahead of
the player: as many of them as are free, and the one behind them (`move_straight`).
-/

namespace GridRunner

instance (w : World) : DecidablePred w.IsFree := fun _ => inferInstanceAs (Decidable (_ ∧ _))

namespace Console

/-- In every state since a load there is a number of free cells ahead, in each direction, and it
tells how far a walk with any count and of any length gets, why it stops, and what it leaves. -/
theorem move_straight (rules : Rules) (operations : List Operation) (level : Level)
    (loaded : (start rules).lastLoad? operations = some level) (dx dy : Int)
    (unit : dx.natAbs + dy.natAbs = 1) :
    let w := ((start rules).run operations).game.world
    (∃ k, w.Clear dx dy k) ∧
      ∀ k, w.Clear dx dy k → ∀ count repeats : Nat,
        w.Strides ⟨dx, dy, count, repeats⟩ k (w.move ⟨dx, dy, count, repeats⟩) := by
  intro w
  have placed : w.WellPlaced := (onMap_run loaded).wellPlaced
  have steady : w.efficient = false := (glows_run rules operations).steady
  exact ⟨World.exists_clear placed.player_inside unit,
    fun k clear count repeats => placed.move_strides steady unit clear⟩

/-- With two free cells before an enemy, a walk of five stops beside it, names it and lights the
aura; a walk of two is not stopped. -/
theorem move_straight_to_enemy :
    let level : Level :=
      { number := 1, name := "Hall", instructions := "", map := .ofRows ["#@..aG"] }
    let operations : List Operation := [.load level, .keys [.char 'l']]
    let w := ((start {}).run operations).game.world
    (start {}).lastLoad? operations = some level ∧ w.Clear 1 0 2 ∧
      w.Strides ⟨1, 0, 5, 5⟩ 2 (w.move ⟨1, 0, 5, 5⟩) ∧
      (w.move ⟨1, 0, 5, 5⟩).1 = ⟨2, some (.blocked "Minion")⟩ ∧
      (w.move ⟨1, 0, 1, 2⟩).1 = ⟨2, none⟩ := by
  intro level operations w
  have loaded : (start {}).lastLoad? operations = some level := by decide +kernel
  have clear : w.Clear 1 0 2 := ⟨by decide +kernel, by decide +kernel⟩
  have strides := (move_straight {} operations level loaded 1 0 rfl).2 2 clear
  exact ⟨loaded, clear, strides 5 5, by decide +kernel, by decide +kernel⟩

end Console
end GridRunner
