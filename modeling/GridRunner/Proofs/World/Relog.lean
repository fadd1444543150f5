import GridRunner.Proofs.World.Change

/-! # The log is only written

No action reads the message log: over another log it has the same outcome and leaves the same world,
and the log gets the same messages (`perform_tells`).
-/

namespace GridRunner
namespace World

/-- The same world with another log. -/
def relog (log : MessageLog) (w : World) : World := { w with log }

/-- Over any log, the function answers and leaves the same, and the log gets those messages. -/
def Tells {α : Type} (told : List String) (f : World → α × World) (w : World) : Prop :=
  ∀ log, f (w.relog log) = ((f w).1, (f w).2.relog (told.foldl MessageLog.push log))

theorem push_foldl (log : MessageLog) (messages : List String) (message : String) :
    (messages.foldl MessageLog.push log).push message =
      (messages ++ [message]).foldl MessageLog.push log := by
  rw [List.foldl_append]
  rfl

/-! ## Walks, yanks and puts -/

theorem halt_tells (stop : Stop) (w : World) :
    ∃ told : List String, ∀ log,
      (w.relog log).halt stop = (w.halt stop).relog (told.foldl MessageLog.push log) := by
  cases stop with
  | exit => exact ⟨[], fun _ => rfl⟩
  | blocked name => exact ⟨[_], fun _ => rfl⟩
  | wall => exact ⟨[_], fun _ => rfl⟩
  | edge => exact ⟨[], fun _ => rfl⟩

theorem walk_tells (dx dy : Int) (repeats taken : Nat) (w : World) :
    ∃ told, Tells told (walk dx dy repeats taken) w := by
  induction repeats generalizing taken w with
  | zero => exact ⟨[], fun _ => rfl⟩
  | succ repeats ih =>
    have same (log : MessageLog) : (w.relog log).stopAt? ((w.relog log).target dx dy) =
        w.stopAt? (w.target dx dy) := rfl
    unfold Tells
    simp only [walk, same]
    cases w.stopAt? (w.target dx dy) with
    | some stop =>
      obtain ⟨told, halted⟩ := halt_tells stop w
      exact ⟨told, fun log => congrArg (Prod.mk _) (halted log)⟩
    | none => exact ih (taken + 1) (w.placePlayer (w.target dx dy))

theorem yank_tells (register : Char) (w : World) : ∃ told, Tells told (yank register) w := by
  unfold Tells yank
  dsimp only [relog]
  cases w.fixtures.findSome? (·.keyInReach? w.player.position) with
  | some key => exact ⟨[_], fun _ => rfl⟩
  | none => exact ⟨[_], fun _ => rfl⟩

theorem put_tells (register : Char) (w : World) : ∃ told, Tells told (put register) w := by
  have tried (log : MessageLog) : (w.relog log).locksInReach = w.locksInReach := rfl
  unfold Tells put
  simp only [tried]
  dsimp only [relog]
  cases w.registers.get? register with
  | none => exact ⟨[_], fun _ => rfl⟩
  | some held =>
    simp only [foldl_note (fun lock : Char × Char => refusal register held lock.2)]
    generalize w.locksInReach.takeWhile (·.1 != held) = refused
    cases w.locksInReach.dropWhile (·.1 != held) with
    | cons lock rest =>
      simp only [note, push_foldl]
      exact ⟨_, fun _ => rfl⟩
    | nil => cases refused.getLast? <;> exact ⟨_, fun _ => rfl⟩

/-! ## Purges and deletes -/

theorem purge_tells (rules : Rules) (command : String) (w : World) :
    ∃ told, Tells told (purge rules command) w := by
  unfold Tells purge
  dsimp only [relog]
  cases Substitution.ofCommand? command with
  | none => exact ⟨[_], fun _ => rfl⟩
  | some substitution =>
    cases Entity.hitFirst (·.kind = .boss) rules.purgeDamage w.hostiles with
    | none => exact ⟨[_], fun _ => rfl⟩
    | some hit =>
      obtain ⟨boss, hostiles⟩ := hit
      dsimp only
      cases boss.alive with
      | true => exact ⟨[_], fun _ => rfl⟩
      | false => exact ⟨[_, _], fun _ => rfl⟩

/-- A strike finds the same target over any log, and tells the same. -/
theorem strike?_tells (damage : Int32) (w : World) :
    (w.strike? damage = none ∧ ∀ log, (w.relog log).strike? damage = none) ∨
      ∃ (erased : Bool) (after : World) (told : List String),
        w.strike? damage = some (erased, after) ∧
        ∀ log, (w.relog log).strike? damage =
          some (erased, after.relog (told.foldl MessageLog.push log)) := by
  have same (log : MessageLog) :
      Entity.hitFirst (w.relog log).strikable damage (w.relog log).hostiles =
        Entity.hitFirst w.strikable damage w.hostiles := rfl
  unfold strike?
  simp only [same]
  cases Entity.hitFirst w.strikable damage w.hostiles with
  | none => exact .inl ⟨rfl, fun _ => rfl⟩
  | some hit =>
    obtain ⟨target, hostiles⟩ := hit
    right
    simp only [Option.map_some]
    cases target.alive with
    | true => exact ⟨_, _, [_], rfl, fun _ => rfl⟩
    | false => exact ⟨_, _, [_, _], rfl, fun _ => rfl⟩

theorem strikes_tells (damage : Int32) (count : Nat) (dealt : Struck) (w : World) :
    ∃ told, Tells told (strikes damage count dealt) w := by
  induction count generalizing dealt w with
  | zero => exact ⟨[], fun _ => rfl⟩
  | succ count ih =>
    unfold Tells
    simp only [strikes]
    rcases strike?_tells damage w with ⟨missed, missed'⟩ | ⟨erased, after, told, hit, hit'⟩
    · simp only [missed, missed']
      exact ⟨[], fun _ => rfl⟩
    · simp only [hit, hit']
      obtain ⟨later, further⟩ := ih ⟨dealt.strikes + 1, dealt.erased + erased.toNat⟩ after
      refine ⟨told ++ later, fun log => ?_⟩
      rw [List.foldl_append]
      exact further _

theorem delete_tells (rules : Rules) (count : Nat) (w : World) :
    ∃ told, Tells told (delete rules count) w := by
  obtain ⟨told, struck⟩ := strikes_tells (w.strikeDamage rules) (max count 1) ⟨0, 0⟩ w
  have same (log : MessageLog) : (w.relog log).strikeDamage rules = w.strikeDamage rules := rfl
  unfold Tells delete
  simp only [same, struck _]
  split
  · simp only [note, relog, push_foldl]
    exact ⟨_, fun _ => rfl⟩
  · exact ⟨told, fun _ => rfl⟩

/-! ## Any action -/

theorem perform_tells (rules : Rules) (action : Action) (w : World) :
    ∃ told, Tells told (perform rules action) w := by
  unfold Tells
  cases action with
  | move m =>
    obtain ⟨told, moved⟩ := walk_tells m.dx m.dy m.repeats 0
      { w with aura := decide (m.count > 1) || w.efficient }
    have moved' (log : MessageLog) : (w.relog log).move m =
        ((w.move m).1, (w.move m).2.relog (told.foldl MessageLog.push log)) := moved log
    exact ⟨told, fun log => by rw [perform, moved']; rfl⟩
  | yank register =>
    obtain ⟨told, yanked⟩ := yank_tells register w
    exact ⟨told, fun log => by rw [perform, yanked]; rfl⟩
  | put register =>
    obtain ⟨told, tried⟩ := put_tells register w
    exact ⟨told, fun log => by rw [perform, tried]; rfl⟩
  | purge command =>
    obtain ⟨told, purged⟩ := purge_tells rules command w
    exact ⟨told, fun log => by rw [perform, purged]; rfl⟩
  | delete scope count =>
    obtain ⟨told, struck⟩ := delete_tells rules count w
    exact ⟨told, fun log => by rw [perform, struck]; rfl⟩

end World
end GridRunner
