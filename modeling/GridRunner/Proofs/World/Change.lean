import GridRunner.Game

/-! # What one action changes

A walk moves the player, and may tell something or complete the level.  A yank or a put takes
at most a fixture away; a purge or a delete hurts hostiles and takes the dead ones away.  All
that later proofs need of an action is in `perform_cases`.
-/

namespace GridRunner

namespace Entity

def outline (e : Entity) : Entity := { e with hp := 0 }

/-- A blow moves nothing and adds nothing. -/
theorem hitFirst_outline {selected : Entity → Bool} {damage : Int32} {es left : List Entity}
    {struck : Entity} (h : hitFirst selected damage es = some (struck, left)) :
    (left.map outline).Sublist (es.map outline) := by
  induction es generalizing left with
  | nil => cases h
  | cons first rest ih =>
    rw [hitFirst] at h
    by_cases chosen : selected first = true
    · rw [if_pos chosen, Option.some.injEq, Prod.mk.injEq] at h
      obtain ⟨-, rfl⟩ := h
      split
      · exact List.Sublist.refl _
      · exact List.sublist_cons_self _ _
    · rw [if_neg chosen, Option.map_eq_some_iff] at h
      obtain ⟨⟨hit, behind⟩, hrest, heq⟩ := h
      obtain ⟨rfl, rfl⟩ := Prod.mk.inj heq
      exact (ih hrest).cons_cons _

end Entity

/-- Whether an entity of this kind keeps a walk from entering its cell: obstacles stop it, and
the exit ends the level. -/
def Entity.Kind.barsWay (kind : Entity.Kind) : Bool := kind.isObstacle || kind == .exit

namespace World

/-! ## Walks -/

/-- A cell that a walk may enter: floor, with nothing on it that bars the way. -/
def Admits (w : World) (p : Position) : Prop :=
  w.isFloor p = true ∧ ∀ e, w.entityAt? p = some e → e.kind.barsWay = false

theorem stopAt?_eq_none_iff {w : World} {p : Position} :
    w.stopAt? p = none ↔ p ≠ w.player.position ∧ w.Admits p := by
  unfold stopAt? Admits
  by_cases here : p = w.player.position
  · simp [here]
  · cases found : w.entityAt? p with
    | none => simp [here]
    | some e =>
      by_cases exit : e.kind = .exit
      · simp [here, exit, Entity.Kind.barsWay]
      · by_cases obstacle : e.kind.isObstacle = true
        · simp [here, exit, obstacle, Entity.Kind.barsWay]
        · simp [here, exit, obstacle, Entity.Kind.barsWay]

theorem halt_eq (w : World) (stop : Stop) :
    ∃ log complete, w.halt stop = { w with log, complete } := by
  cases stop with
  | exit => exact ⟨_, _, rfl⟩
  | blocked name => exact ⟨_, _, rfl⟩
  | wall => exact ⟨_, _, rfl⟩
  | edge => exact ⟨w.log, w.complete, rfl⟩

/-- Where a walk ends.  Steps change neither the grid nor the entities, so each cell entered on
the way was open at the start. -/
theorem walk_eq (dx dy : Int) (repeats taken : Nat) (w : World) :
    ∃ p log complete, (p = w.player.position ∨ w.Admits p) ∧
      (w.walk dx dy repeats taken).2 =
        { w with player := { w.player with position := p }, log, complete } := by
  induction repeats generalizing taken w with
  | zero => exact ⟨w.player.position, w.log, w.complete, Or.inl rfl, rfl⟩
  | succ repeats ih =>
    rw [walk]
    cases stopped : w.stopAt? (w.target dx dy) with
    | some stop =>
      obtain ⟨log, complete, halted⟩ := w.halt_eq stop
      exact ⟨w.player.position, log, complete, Or.inl rfl, halted⟩
    | none =>
      have entered := (stopAt?_eq_none_iff.mp stopped).2
      obtain ⟨p, log, complete, reached, moved⟩ := ih (taken + 1) (w.placePlayer (w.target dx dy))
      refine ⟨p, log, complete, Or.inr ?_, moved⟩
      cases reached with
      | inl stayed => exact stayed ▸ entered
      | inr further => exact further

theorem move_eq (m : Move) (w : World) :
    ∃ p log complete, (p = w.player.position ∨ w.Admits p) ∧
      (w.move m).2 =
        { w with
          player := { w.player with position := p }, log, complete
          aura := decide (m.count > 1) || w.efficient } :=
  walk_eq m.dx m.dy m.repeats 0 { w with aura := decide (m.count > 1) || w.efficient }

/-! ## Yanks and puts -/

theorem foldl_note {α : Type} (text : α → String) (xs : List α) (w : World) :
    xs.foldl (fun w x => w.note (text x)) w =
      { w with log := (xs.map text).foldl MessageLog.push w.log } := by
  induction xs generalizing w with
  | nil => rfl
  | cons x rest ih =>
    rw [List.foldl_cons, ih]
    rfl

theorem yank_eq (register : Char) (w : World) :
    ∃ fixtures registers log, fixtures.Sublist w.fixtures ∧
      (w.yank register).2 = { w with fixtures, registers, log } := by
  unfold yank
  dsimp only
  split
  · exact ⟨_, _, _, List.eraseP_sublist, rfl⟩
  · exact ⟨w.fixtures, w.registers, _, List.Sublist.refl _, rfl⟩

theorem put_eq (register : Char) (w : World) :
    ∃ fixtures log, fixtures.Sublist w.fixtures ∧
      (w.put register).2 = { w with fixtures, log } := by
  unfold put
  cases w.registers.get? register with
  | none => exact ⟨w.fixtures, _, List.Sublist.refl _, rfl⟩
  | some held =>
    simp only [foldl_note (fun lock : Char × Char => refusal register held lock.2)]
    split
    · exact ⟨_, _, List.eraseP_sublist, rfl⟩
    · split
      · exact ⟨w.fixtures, _, List.Sublist.refl _, rfl⟩
      · exact ⟨w.fixtures, _, List.Sublist.refl _, rfl⟩

/-! ## Purges and deletes -/

theorem purge_eq (rules : Rules) (command : String) (w : World) :
    ∃ hostiles log, (hostiles.map Entity.outline).Sublist (w.hostiles.map Entity.outline) ∧
      (w.purge rules command).2 = { w with hostiles, log } := by
  unfold purge
  split
  · exact ⟨w.hostiles, _, List.Sublist.refl _, rfl⟩
  · split
    · exact ⟨w.hostiles, _, List.Sublist.refl _, rfl⟩
    · rename_i boss hostiles hit
      have fewer := Entity.hitFirst_outline hit
      dsimp only
      split
      · exact ⟨hostiles, _, fewer, rfl⟩
      · exact ⟨hostiles, _, fewer, rfl⟩

theorem strike?_eq {damage : Int32} {w after : World} {erased : Bool}
    (h : w.strike? damage = some (erased, after)) :
    ∃ hostiles log, (hostiles.map Entity.outline).Sublist (w.hostiles.map Entity.outline) ∧
      after = { w with hostiles, log } := by
  rw [strike?, Option.map_eq_some_iff] at h
  obtain ⟨⟨target, hostiles⟩, hit, h⟩ := h
  have fewer := Entity.hitFirst_outline hit
  dsimp only at h
  split at h
  · obtain ⟨-, rfl⟩ := Prod.mk.inj h
    exact ⟨hostiles, _, fewer, rfl⟩
  · obtain ⟨-, rfl⟩ := Prod.mk.inj h
    exact ⟨hostiles, _, fewer, rfl⟩

theorem strikes_eq (damage : Int32) (count : Nat) (dealt : Struck) (w : World) :
    ∃ hostiles log, (hostiles.map Entity.outline).Sublist (w.hostiles.map Entity.outline) ∧
      (strikes damage count dealt w).2 = { w with hostiles, log } := by
  induction count generalizing dealt w with
  | zero => exact ⟨w.hostiles, w.log, List.Sublist.refl _, rfl⟩
  | succ count ih =>
    rw [strikes]
    cases struck : w.strike? damage with
    | none => exact ⟨w.hostiles, w.log, List.Sublist.refl _, rfl⟩
    | some result =>
      obtain ⟨erased, after⟩ := result
      obtain ⟨hostiles, log, fewer, rfl⟩ := strike?_eq struck
      obtain ⟨hostiles', log', fewer', rest⟩ :=
        ih ⟨dealt.strikes + 1, dealt.erased + erased.toNat⟩ { w with hostiles, log }
      exact ⟨hostiles', log', fewer'.trans fewer, rest⟩

theorem delete_eq (rules : Rules) (count : Nat) (w : World) :
    ∃ hostiles log, (hostiles.map Entity.outline).Sublist (w.hostiles.map Entity.outline) ∧
      (w.delete rules count).2 = { w with hostiles, log } := by
  obtain ⟨hostiles, log, fewer, struck⟩ :=
    strikes_eq (w.strikeDamage rules) (max count 1) ⟨0, 0⟩ w
  unfold delete
  dsimp only
  rw [struck]
  split
  · exact ⟨hostiles, _, fewer, rfl⟩
  · exact ⟨hostiles, log, fewer, rfl⟩

/-! ## Any action -/

/-- Everything that an action can do to a world. -/
theorem perform_cases (rules : Rules) (action : Action) (w : World) :
    (∃ p log complete aura, (p = w.player.position ∨ w.Admits p) ∧
      (w.perform rules action).2 =
        { w with player := { w.player with position := p }, log, complete, aura }) ∨
    (∃ fixtures registers log, fixtures.Sublist w.fixtures ∧
      (w.perform rules action).2 = { w with fixtures, registers, log }) ∨
    (∃ hostiles log, (hostiles.map Entity.outline).Sublist (w.hostiles.map Entity.outline) ∧
      (w.perform rules action).2 = { w with hostiles, log }) := by
  cases action with
  | move m =>
    obtain ⟨p, log, complete, reached, moved⟩ := w.move_eq m
    exact Or.inl ⟨p, log, complete, _, reached, moved⟩
  | yank register =>
    exact Or.inr (Or.inl (w.yank_eq register))
  | put register =>
    obtain ⟨fixtures, log, fewer, done⟩ := w.put_eq register
    exact Or.inr (Or.inl ⟨fixtures, w.registers, log, fewer, done⟩)
  | purge command =>
    exact Or.inr (Or.inr (w.purge_eq rules command))
  | delete scope count =>
    exact Or.inr (Or.inr (w.delete_eq rules count))

/-- The mode and the count of keystrokes are the same, and of the player all but the cell. -/
structure Spares (w after : World) : Prop where
  mode : after.mode = w.mode
  keystrokes : after.keystrokes = w.keystrokes
  player : ∃ p, after.player = { w.player with position := p }

theorem perform_spares (rules : Rules) (action : Action) (w : World) :
    Spares w (w.perform rules action).2 := by
  obtain ⟨p, log, complete, aura, -, moved⟩ | ⟨fixtures, registers, log, -, taken⟩ |
    ⟨hostiles, log, -, hit⟩ := w.perform_cases rules action
  · rw [moved]
    exact ⟨rfl, rfl, p, rfl⟩
  · rw [taken]
    exact ⟨rfl, rfl, w.player.position, rfl⟩
  · rw [hit]
    exact ⟨rfl, rfl, w.player.position, rfl⟩

end World
end GridRunner
