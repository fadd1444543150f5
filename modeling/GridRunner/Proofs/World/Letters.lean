import GridRunner.Proofs.World.Removal

/-! # Letters in the registers

A letter comes into a register by a yank that stores one, and no other action writes a register
(`perform_registers`).  A put that opens a lock does so with the letter that its register holds
(`held_of_unlocked`).
-/

namespace GridRunner

def Outcome.letter? : Outcome → Option Char
  | .yanked (.stored letter) => some letter
  | .put (.unlocked letter) => some letter
  | _ => none

theorem Outcome.letter?_yanked {o : Yanked} {letter : Char} :
    (Outcome.yanked o).letter? = some letter ↔ o = .stored letter := by
  cases o <;> simp [letter?]

theorem Outcome.letter?_put {o : Put} {letter : Char} :
    (Outcome.put o).letter? = some letter ↔ o = .unlocked letter := by
  cases o <;> simp [letter?]

namespace World

theorem yank_registers (register : Char) (w : World) :
    (∃ letter, (w.yank register).1 = .stored letter ∧
      (w.yank register).2.registers = w.registers.insert register letter) ∨
    ((w.yank register).1 = .nothingInRange ∧ (w.yank register).2.registers = w.registers) := by
  unfold yank
  dsimp only
  cases w.fixtures.findSome? (·.keyInReach? w.player.position) with
  | some key => exact .inl ⟨key.1, rfl, rfl⟩
  | none => exact .inr ⟨rfl, rfl⟩

/-- The letter of a successful yank is the only thing that an action writes into a register. -/
theorem perform_registers (rules : Rules) (action : Action) (w : World) (r : Char) :
    (w.perform rules action).2.registers.get? r =
      (if action = .yank r then (w.perform rules action).1.letter? else none).or
        (w.registers.get? r) := by
  cases action with
  | move m =>
    obtain ⟨p, log, complete, -, moved⟩ := w.move_eq m
    have same : (w.move m).2.registers = w.registers := by rw [moved]
    simp [perform, same]
  | yank register =>
    obtain ⟨letter, stored, written⟩ | ⟨missed, same⟩ := w.yank_registers register
    · by_cases wanted : register = r
      · subst wanted
        simp [perform, stored, written, Outcome.letter?]
      · simp [perform, written, wanted, Ne.symm wanted]
    · simp [perform, missed, same, Outcome.letter?]
  | put register =>
    obtain ⟨fixtures, log, -, done⟩ := w.put_eq register
    have same : (w.put register).2.registers = w.registers := by rw [done]
    simp [perform, same]
  | purge command =>
    obtain ⟨hostiles, log, -, done⟩ := w.purge_eq rules command
    have same : (w.purge rules command).2.registers = w.registers := by rw [done]
    simp [perform, same]
  | delete scope count =>
    obtain ⟨hostiles, log, -, done⟩ := w.delete_eq rules count
    have same : (w.delete rules count).2.registers = w.registers := by rw [done]
    simp [perform, same]

theorem held_of_unlocked {register letter : Char} {w : World}
    (opened : (w.put register).1 = .unlocked letter) : w.registers.get? register = some letter := by
  unfold put at opened
  cases held : w.registers.get? register with
  | none =>
    rw [held] at opened
    cases opened
  | some found =>
    simp only [held] at opened
    split at opened
    · rename_i fitting glyph rest tried
      cases opened
      rw [fits_of_opened tried]
    · split at opened
      · cases opened
      · cases opened

end World
end GridRunner
