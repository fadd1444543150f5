import GridRunner.Proofs.World.Placement

/-! # What an action takes away

A stored letter is that of the one key taken, an unlocked one that of the one lock taken; a purge
takes one boss, and a delete as many hostiles as it reports erased.  Every other outcome takes
nothing (`perform_lost`).  Blows leave no hostile without strength (`perform_alive`).
-/

namespace GridRunner

namespace Entity.Kind

def isKey : Kind → Bool
  | key _ => true
  | _ => false

def isLock : Kind → Bool
  | lock _ => true
  | _ => false

end Entity.Kind

def LosesOne (q : Entity → Prop) (before after : List Entity) : Prop :=
  ∃ front e back, q e ∧ before = front ++ e :: back ∧ after = front ++ back

theorem LosesOne.length {q : Entity → Prop} {before after : List Entity}
    (h : LosesOne q before after) : before.length = after.length + 1 := by
  obtain ⟨front, e, back, -, rfl, rfl⟩ := h
  simp only [List.length_append, List.length_cons]
  omega

theorem LosesOne.perm {kind : Entity.Kind} {before after : List Entity}
    (h : LosesOne (·.kind = kind) before after) :
    (before.map Entity.kind).Perm (kind :: after.map Entity.kind) := by
  obtain ⟨front, e, back, rfl, rfl, rfl⟩ := h
  simp only [List.map_append, List.map_cons]
  exact List.perm_middle

namespace Entity

theorem kind_of_keyInReach? {origin : Position} {e : Entity} {letter : Char} {name : String}
    (h : e.keyInReach? origin = some (letter, name)) : e.kind = .key letter := by
  unfold keyInReach? at h
  split at h
  · rename_i found kind
    split at h
    · cases h
      exact kind
    · cases h
  · cases h

theorem kind_of_lockInReach? {origin : Position} {e : Entity} {letter glyph : Char}
    (h : e.lockInReach? origin = some (letter, glyph)) : e.kind = .lock letter := by
  unfold lockInReach? at h
  split at h
  · rename_i found kind
    split at h
    · cases h
      exact kind
    · cases h
  · cases h

theorem kind_of_opensTo {origin : Position} {held : Char} {e : Entity}
    (h : e.opensTo origin held = true) : e.kind = .lock held := by
  unfold opensTo at h
  split at h
  · rename_i letter glyph reach
    rw [kind_of_lockInReach? reach, beq_iff_eq.mp h]
  · cases h

theorem opensTo_of_lockInReach? {origin : Position} {held glyph : Char} {e : Entity}
    (h : e.lockInReach? origin = some (held, glyph)) : e.opensTo origin held = true := by
  simp [opensTo, h]

/-- A blow falls on the first selected entity, which is gone if it leaves it without strength. -/
theorem hitFirst_eq_some {selected : Entity → Bool} {damage : Int32} {es left : List Entity}
    {struck : Entity} (h : hitFirst selected damage es = some (struck, left)) :
    ∃ front e back, es = front ++ e :: back ∧ selected e = true ∧
      (∀ x ∈ front, selected x = false) ∧ struck = e.hurt damage ∧
      left = front ++ if struck.alive then struck :: back else back := by
  induction es generalizing left with
  | nil => cases h
  | cons first rest ih =>
    rw [hitFirst] at h
    by_cases chosen : selected first = true
    · rw [if_pos chosen, Option.some.injEq, Prod.mk.injEq] at h
      obtain ⟨rfl, rfl⟩ := h
      exact ⟨[], first, rest, rfl, chosen, by simp, rfl, rfl⟩
    · rw [if_neg chosen, Option.map_eq_some_iff] at h
      obtain ⟨⟨hit, behind⟩, hrest, heq⟩ := h
      obtain ⟨rfl, rfl⟩ := Prod.mk.inj heq
      obtain ⟨front, e, back, rfl, selects, skips, rfl, rfl⟩ := ih hrest
      refine ⟨first :: front, e, back, rfl, selects, ?_, rfl, rfl⟩
      exact List.forall_mem_cons.mpr ⟨by simpa using chosen, skips⟩

theorem hitFirst_length {selected : Entity → Bool} {damage : Int32} {es left : List Entity}
    {struck : Entity} (h : hitFirst selected damage es = some (struck, left)) :
    es.length = left.length + (!struck.alive).toNat := by
  obtain ⟨front, e, back, rfl, -, -, -, rfl⟩ := hitFirst_eq_some h
  cases struck.alive with
  | true => simp
  | false => simp [Nat.add_assoc]

theorem hitFirst_alive {selected : Entity → Bool} {damage : Int32} {es left : List Entity}
    {struck : Entity} (h : hitFirst selected damage es = some (struck, left))
    (alive : ∀ e ∈ es, e.alive = true) : ∀ e ∈ left, e.alive = true := by
  obtain ⟨front, target, back, rfl, -, -, -, rfl⟩ := hitFirst_eq_some h
  intro e he
  rcases List.mem_append.mp he with early | late
  · exact alive e (by simp [early])
  · split at late
    · rename_i survives
      rcases List.mem_cons.mp late with rfl | behind
      · exact survives
      · exact alive e (by simp [behind])
    · exact alive e (by simp [late])

end Entity

namespace World

/-- What the world loses by an action with the outcome. -/
def Lost (w w' : World) : Outcome → Prop
  | .yanked (.stored letter) =>
      w'.hostiles = w.hostiles ∧ LosesOne (·.kind = .key letter) w.fixtures w'.fixtures
  | .put (.unlocked letter) =>
      w'.hostiles = w.hostiles ∧ LosesOne (·.kind = .lock letter) w.fixtures w'.fixtures
  | .purged .purged =>
      w'.fixtures = w.fixtures ∧ LosesOne (·.kind = .boss) w.hostiles w'.hostiles
  | .struck dealt =>
      w'.fixtures = w.fixtures ∧ w.hostiles.length = w'.hostiles.length + dealt.erased
  | _ => w'.fixtures = w.fixtures ∧ w'.hostiles.map Entity.outline = w.hostiles.map Entity.outline

theorem move_lost (m : Move) (w : World) : w.Lost (w.move m).2 (.moved (w.move m).1) := by
  obtain ⟨p, log, complete, -, moved⟩ := w.move_eq m
  rw [moved]
  exact ⟨rfl, rfl⟩

theorem yank_lost (register : Char) (w : World) :
    w.Lost (w.yank register).2 (.yanked (w.yank register).1) := by
  unfold yank
  dsimp only
  split
  · rename_i letter name found
    obtain ⟨front, e, back, split, reach, skips⟩ := List.findSome?_eq_some_iff.mp found
    refine ⟨rfl, front, e, back, Entity.kind_of_keyInReach? reach, split, ?_⟩
    have passed : ∀ x ∈ front, ¬(x.keyInReach? w.player.position).isSome = true := by
      intro x hx
      simp [skips x hx]
    simp only [note, split]
    rw [List.eraseP_append_right _ passed, List.eraseP_cons_of_pos (by simp [reach])]
  · exact ⟨rfl, rfl⟩

/-- The first lock that is not passed over takes the letter held. -/
theorem fits_of_opened {held letter glyph : Char} {tried rest : List (Char × Char)}
    (opened : tried.dropWhile (·.1 != held) = (letter, glyph) :: rest) : letter = held := by
  have first := List.head?_dropWhile_not (·.1 != held) tried
  rw [opened] at first
  simpa using first

theorem put_lost (register : Char) (w : World) :
    w.Lost (w.put register).2 (.put (w.put register).1) := by
  unfold put
  cases w.registers.get? register with
  | none => exact ⟨rfl, rfl⟩
  | some held =>
    simp only [foldl_note (fun lock : Char × Char => refusal register held lock.2)]
    split
    · rename_i letter glyph rest opened
      -- The lock opened is the first in reach that fits, and so the first that is taken out.
      have fits := fits_of_opened opened
      have tried : (letter, glyph) ∈ w.locksInReach :=
        (List.dropWhile_sublist (·.1 != held)).subset (by simp [opened])
      obtain ⟨lock, member, reach⟩ := List.mem_filterMap.mp tried
      rw [fits] at reach
      obtain ⟨e, front, back, -, opens, split, left⟩ :=
        List.exists_of_eraseP member (Entity.opensTo_of_lockInReach? reach)
      exact ⟨rfl, front, e, back, fits ▸ Entity.kind_of_opensTo opens, split, left⟩
    · split
      · exact ⟨rfl, rfl⟩
      · exact ⟨rfl, rfl⟩

theorem purge_lost (rules : Rules) (command : String) (w : World) :
    w.Lost (w.purge rules command).2 (.purged (w.purge rules command).1) := by
  unfold purge
  split
  · exact ⟨rfl, rfl⟩
  · split
    · exact ⟨rfl, rfl⟩
    · rename_i boss hostiles hit
      obtain ⟨front, e, back, split, selects, -, rfl, rfl⟩ := Entity.hitFirst_eq_some hit
      cases survives : (e.hurt rules.purgeDamage).alive with
      | true =>
        simp only [if_true]
        refine ⟨rfl, ?_⟩
        simp [note, split, Entity.outline, Entity.hurt]
      | false =>
        simp only [Bool.false_eq_true, if_false]
        exact ⟨rfl, front, e, back, of_decide_eq_true selects, split, rfl⟩

theorem strike?_eq_some {damage : Int32} {w after : World} {erased : Bool}
    (h : w.strike? damage = some (erased, after)) :
    ∃ target, Entity.hitFirst w.strikable damage w.hostiles = some (target, after.hostiles) ∧
      erased = !target.alive := by
  rw [strike?, Option.map_eq_some_iff] at h
  obtain ⟨⟨target, hostiles⟩, hit, h⟩ := h
  refine ⟨target, ?_⟩
  cases survives : target.alive with
  | true =>
    simp only [survives, if_true] at h
    obtain ⟨rfl, rfl⟩ := Prod.mk.inj h
    exact ⟨hit, rfl⟩
  | false =>
    simp only [survives, Bool.false_eq_true, if_false] at h
    obtain ⟨rfl, rfl⟩ := Prod.mk.inj h
    exact ⟨hit, rfl⟩

theorem strikes_length (damage : Int32) (count : Nat) (dealt : Struck) (w : World) :
    w.hostiles.length + dealt.erased =
      (strikes damage count dealt w).2.hostiles.length +
        (strikes damage count dealt w).1.erased := by
  induction count generalizing dealt w with
  | zero => rfl
  | succ count ih =>
    rw [strikes]
    cases struck : w.strike? damage with
    | none => rfl
    | some result =>
      obtain ⟨erased, after⟩ := result
      obtain ⟨target, hit, rfl⟩ := strike?_eq_some struck
      have fewer := Entity.hitFirst_length hit
      have later := ih ⟨dealt.strikes + 1, dealt.erased + (!target.alive).toNat⟩ after
      dsimp only at later ⊢
      omega

theorem delete_lost (rules : Rules) (count : Nat) (w : World) :
    w.Lost (w.delete rules count).2 (.struck (w.delete rules count).1) := by
  obtain ⟨hostiles, log, -, after⟩ := w.delete_eq rules count
  refine ⟨by rw [after], ?_⟩
  have length := strikes_length (w.strikeDamage rules) (max count 1) ⟨0, 0⟩ w
  unfold delete
  dsimp only at length ⊢
  split
  · exact length
  · exact length

/-- What a world loses is what the outcome says. -/
theorem perform_lost (rules : Rules) (action : Action) (w : World) :
    w.Lost (w.perform rules action).2 (w.perform rules action).1 := by
  cases action with
  | move m => exact w.move_lost m
  | yank register => exact w.yank_lost register
  | put register => exact w.put_lost register
  | purge command => exact w.purge_lost rules command
  | delete scope count => exact w.delete_lost rules count

/-! ## Strength -/

theorem strikes_alive (damage : Int32) (count : Nat) (dealt : Struck) {w : World}
    (alive : ∀ e ∈ w.hostiles, e.alive = true) :
    ∀ e ∈ (strikes damage count dealt w).2.hostiles, e.alive = true := by
  induction count generalizing dealt w with
  | zero => exact alive
  | succ count ih =>
    rw [strikes]
    cases struck : w.strike? damage with
    | none => exact alive
    | some result =>
      obtain ⟨erased, after⟩ := result
      obtain ⟨target, hit, -⟩ := strike?_eq_some struck
      exact ih _ (Entity.hitFirst_alive hit alive)

theorem purge_alive (rules : Rules) (command : String) {w : World}
    (alive : ∀ e ∈ w.hostiles, e.alive = true) :
    ∀ e ∈ (w.purge rules command).2.hostiles, e.alive = true := by
  unfold purge
  split
  · exact alive
  · split
    · exact alive
    · rename_i boss hostiles hit
      have left := Entity.hitFirst_alive hit alive
      dsimp only
      split
      · exact left
      · exact left

theorem delete_alive (rules : Rules) (count : Nat) {w : World}
    (alive : ∀ e ∈ w.hostiles, e.alive = true) :
    ∀ e ∈ (w.delete rules count).2.hostiles, e.alive = true := by
  have left := strikes_alive (w.strikeDamage rules) (max count 1) ⟨0, 0⟩ alive
  unfold delete
  dsimp only
  split
  · exact left
  · exact left

theorem perform_alive (rules : Rules) (action : Action) {w : World}
    (alive : ∀ e ∈ w.hostiles, e.alive = true) :
    ∀ e ∈ (w.perform rules action).2.hostiles, e.alive = true := by
  cases action with
  | move m =>
    obtain ⟨p, log, complete, -, moved⟩ := w.move_eq m
    have same : (w.move m).2.hostiles = w.hostiles := by rw [moved]
    exact same ▸ alive
  | yank register =>
    obtain ⟨fixtures, registers, log, -, taken⟩ := w.yank_eq register
    have same : (w.yank register).2.hostiles = w.hostiles := by rw [taken]
    exact same ▸ alive
  | put register =>
    obtain ⟨fixtures, log, -, done⟩ := w.put_eq register
    have same : (w.put register).2.hostiles = w.hostiles := by rw [done]
    exact same ▸ alive
  | purge command => exact purge_alive rules command alive
  | delete scope count => exact delete_alive rules count alive

end World
end GridRunner
