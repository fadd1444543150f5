import GridRunner.Proofs.Console.Placement
import GridRunner.Proofs.World.Removal
import Mathlib.Algebra.GroupWithZero.Nat

/-! # The account of a level

Since a level was loaded no entity has moved or appeared, and those that are gone are the ones
that the outcomes of the actions report: a key for every letter stored, a lock for every letter
that unlocked one, and a hostile for every one erased or purged.
-/

namespace GridRunner

namespace Outcome

def isStored : Outcome → Bool
  | .yanked (.stored _) => true
  | _ => false

def isUnlocked : Outcome → Bool
  | .put (.unlocked _) => true
  | _ => false

def taken? : Outcome → Option Entity.Kind
  | .yanked (.stored letter) => some (.key letter)
  | .put (.unlocked letter) => some (.lock letter)
  | _ => none

def felled : Outcome → Nat
  | .struck dealt => dealt.erased
  | .purged .purged => 1
  | _ => 0

theorem countP_isKey_taken? (told : List Outcome) :
    (told.filterMap taken?).countP Entity.Kind.isKey = told.countP isStored := by
  rw [List.countP_filterMap]
  apply List.countP_congr
  intro o _
  unfold taken? isStored
  split <;> simp_all [Entity.Kind.isKey]

theorem countP_isLock_taken? (told : List Outcome) :
    (told.filterMap taken?).countP Entity.Kind.isLock = told.countP isUnlocked := by
  rw [List.countP_filterMap]
  apply List.countP_congr
  intro o _
  unfold taken? isUnlocked
  split <;> simp_all [Entity.Kind.isLock]

theorem not_mem_taken? {kind : Entity.Kind} (h : kind = .rubble ∨ kind = .exit)
    (told : List Outcome) : kind ∉ told.filterMap taken? := by
  intro member
  obtain ⟨o, -, taken⟩ := List.mem_filterMap.mp member
  unfold taken? at taken
  rcases h with rfl | rfl
  · split at taken <;> cases taken
  · split at taken <;> cases taken

end Outcome

/-! ## What is gone and what was told -/

/-- Entities of one state of a level against those of a later one, and what was told between. -/
structure Balanced (w w' : World) (told : List Outcome) : Prop where
  hostiles : (w'.hostiles.map Entity.outline).Sublist (w.hostiles.map Entity.outline)
  fixtures : w'.fixtures.Sublist w.fixtures
  /-- The fixtures gone are of the kinds, letters included, that were told. -/
  kinds : (w.fixtures.map Entity.kind).Perm
    (w'.fixtures.map Entity.kind ++ told.filterMap Outcome.taken?)
  foes : w.hostiles.length = w'.hostiles.length + (told.map Outcome.felled).sum

namespace Balanced

variable {w w' w'' : World} {told told' : List Outcome}

theorem of_eq (hostiles : w'.hostiles = w.hostiles) (fixtures : w'.fixtures = w.fixtures) :
    Balanced w w' [] := by
  refine ⟨?_, ?_, ?_, ?_⟩
  · rw [hostiles]
  · rw [fixtures]
  · simp [fixtures]
  · simp [hostiles]

theorem trans (b : Balanced w w' told) (b' : Balanced w' w'' told') :
    Balanced w w'' (told ++ told') where
  hostiles := b'.hostiles.trans b.hostiles
  fixtures := b'.fixtures.trans b.fixtures
  kinds := by
    rw [List.filterMap_append]
    refine b.kinds.trans ?_
    have onward := b'.kinds.append_right (told.filterMap Outcome.taken?)
    rw [List.append_assoc] at onward
    exact onward.trans (List.perm_append_comm.append_left _)
  foes := by
    rw [List.map_append, List.sum_append, b.foes, b'.foes]
    omega

theorem of_taken (thins : World.Thins w w') {o : Outcome} {kind : Entity.Kind}
    (taken : o.taken? = some kind) (unhurt : o.felled = 0) (hostiles : w'.hostiles = w.hostiles)
    (one : LosesOne (·.kind = kind) w.fixtures w'.fixtures) : Balanced w w' [o] := by
  refine ⟨thins.hostiles, thins.fixtures, ?_, ?_⟩
  · have last := List.perm_append_singleton kind (w'.fixtures.map Entity.kind)
    simpa [taken] using one.perm.trans last.symm
  · simp [hostiles, unhurt]

theorem of_felled (thins : World.Thins w w') {o : Outcome} (untaken : o.taken? = none)
    (fixtures : w'.fixtures = w.fixtures)
    (fewer : w.hostiles.length = w'.hostiles.length + o.felled) : Balanced w w' [o] := by
  refine ⟨thins.hostiles, thins.fixtures, ?_, ?_⟩
  · simp [untaken, fixtures]
  · simpa using fewer

/-- What an action takes away balances with its outcome. -/
theorem of_lost (thins : World.Thins w w') {o : Outcome} (lost : w.Lost w' o) :
    Balanced w w' [o] := by
  have spared (untaken : o.taken? = none) (unhurt : o.felled = 0)
      (fixtures : w'.fixtures = w.fixtures)
      (hostiles : w'.hostiles.map Entity.outline = w.hostiles.map Entity.outline) :
      Balanced w w' [o] := by
    refine of_felled thins untaken fixtures ?_
    have same := congrArg List.length hostiles
    simpa [unhurt] using same.symm
  cases o with
  | moved r => exact spared rfl rfl lost.1 lost.2
  | yanked r =>
    cases r with
    | stored letter => exact of_taken thins rfl rfl lost.1 lost.2
    | nothingInRange => exact spared rfl rfl lost.1 lost.2
  | put r =>
    cases r with
    | unlocked letter => exact of_taken thins rfl rfl lost.1 lost.2
    | emptyRegister => exact spared rfl rfl lost.1 lost.2
    | mismatch held required => exact spared rfl rfl lost.1 lost.2
    | nothingInRange => exact spared rfl rfl lost.1 lost.2
  | purged r =>
    cases r with
    | purged => exact of_felled thins rfl lost.1 lost.2.length
    | invalidSyntax => exact spared rfl rfl lost.1 lost.2
    | noTarget => exact spared rfl rfl lost.1 lost.2
    | damaged hp => exact spared rfl rfl lost.1 lost.2
  | struck dealt => exact of_felled thins rfl lost.1 lost.2

theorem keys (b : Balanced w w' told) :
    w.fixtures.countP (·.kind.isKey) =
      w'.fixtures.countP (·.kind.isKey) + told.countP Outcome.isStored := by
  have count := b.kinds.countP_eq Entity.Kind.isKey
  rw [List.countP_append, Outcome.countP_isKey_taken?, List.countP_map, List.countP_map] at count
  exact count

theorem locks (b : Balanced w w' told) :
    w.fixtures.countP (·.kind.isLock) =
      w'.fixtures.countP (·.kind.isLock) + told.countP Outcome.isUnlocked := by
  have count := b.kinds.countP_eq Entity.Kind.isLock
  rw [List.countP_append, Outcome.countP_isLock_taken?, List.countP_map, List.countP_map] at count
  exact count

theorem lasting (b : Balanced w w' told) {kind : Entity.Kind} (h : kind = .rubble ∨ kind = .exit) :
    w'.fixtures.filter (·.kind = kind) = w.fixtures.filter (·.kind = kind) := by
  refine (b.fixtures.filter _).eq_of_length ?_
  have count := b.kinds.count_eq kind
  rw [List.count_append, List.count_eq_zero.mpr (Outcome.not_mem_taken? h told),
    List.count_eq_countP, List.count_eq_countP, List.countP_map, List.countP_map] at count
  rw [← List.countP_eq_length_filter, ← List.countP_eq_length_filter]
  exact count.symm

end Balanced

/-! ## The actions of a run -/

structure Deed where
  before : World
  outcome : Outcome
  after : World

namespace Game

def outcome? (g : Game) : Step → Option Outcome
  | .apply action => some (g.apply action).1
  | .perform action => some (g.perform action).1
  | .load _ | .say _ | .finish | .setMode _ => none

/-- The actions among the steps of a run. -/
def deeds (g : Game) : List Step → List Deed
  | [] => []
  | s :: rest =>
      (g.outcome? s).toList.map (fun o => ⟨g.world, o, (g.step s).world⟩) ++ (g.step s).deeds rest

theorem step_lost {g : Game} {s : Step} {o : Outcome} (h : g.outcome? s = some o) :
    g.world.Lost (g.step s).world o := by
  cases s with
  | apply action =>
    cases h
    exact World.perform_lost g.rules action
      { g.world with keystrokes := capped (g.world.keystrokes + 1) }
  | perform action =>
    cases h
    exact World.perform_lost g.rules action g.world
  | load level => cases h
  | say message => cases h
  | finish => cases h
  | setMode mode => cases h

theorem deeds_lost (g : Game) (steps : List Step) :
    ∀ deed ∈ g.deeds steps, deed.before.Lost deed.after deed.outcome := by
  induction steps generalizing g with
  | nil => simp [deeds]
  | cons s rest ih =>
    intro deed member
    rcases List.mem_append.mp member with now | later
    · obtain ⟨o, told, rfl⟩ := List.mem_map.mp now
      exact step_lost (Option.mem_toList.mp told)
    · exact ih (g.step s) deed later

theorem step_load_of_quiet {g : Game} {level : Level} (quiet : g.landed? (.load level) = none) :
    g.step (.load level) = g := by
  rw [step]
  cases loaded : g.load level with
  | ok after => simp [landed?, loaded] at quiet
  | error fault => rfl

/-- A step that puts no level in play either acts or leaves every entity as it is. -/
theorem step_balanced {g : Game} {s : Step} (quiet : g.landed? s = none) :
    Balanced g.world (g.step s).world (g.outcome? s).toList := by
  cases s with
  | apply action => exact .of_lost (g.step_thins fun _ => by simp) (step_lost rfl)
  | perform action => exact .of_lost (g.step_thins fun _ => by simp) (step_lost rfl)
  | load level =>
    rw [step_load_of_quiet quiet]
    exact .of_eq rfl rfl
  | say message => exact .of_eq rfl rfl
  | finish => exact .of_eq rfl rfl
  | setMode mode => exact .of_eq rfl rfl

theorem run_balanced {g : Game} {steps : List Step} (quiet : g.lastLoad? steps = none) :
    Balanced g.world (g.run steps).world ((g.deeds steps).map Deed.outcome) := by
  induction steps generalizing g with
  | nil => exact .of_eq rfl rfl
  | cons s rest ih =>
    rw [lastLoad?, Option.or_eq_none_iff] at quiet
    have first := step_balanced quiet.2
    have later := first.trans (ih quiet.1)
    have told : (g.deeds (s :: rest)).map Deed.outcome =
        (g.outcome? s).toList ++ ((g.step s).deeds rest).map Deed.outcome := by
      rw [deeds, List.map_append, List.map_map]
      exact congrArg (· ++ _) (List.map_id _)
    rw [told]
    exact later

theorem step_alive {g : Game} {s : Step} (quiet : g.landed? s = none)
    (alive : ∀ e ∈ g.world.hostiles, e.alive = true) :
    ∀ e ∈ (g.step s).world.hostiles, e.alive = true := by
  cases s with
  | apply action =>
    exact World.perform_alive g.rules action
      (w := { g.world with keystrokes := capped (g.world.keystrokes + 1) }) alive
  | perform action => exact World.perform_alive g.rules action alive
  | load level =>
    rw [step_load_of_quiet quiet]
    exact alive
  | say message => exact alive
  | finish => exact alive
  | setMode mode => exact alive

theorem run_alive {g : Game} {steps : List Step} (quiet : g.lastLoad? steps = none)
    (alive : ∀ e ∈ g.world.hostiles, e.alive = true) :
    ∀ e ∈ (g.run steps).world.hostiles, e.alive = true := by
  induction steps generalizing g with
  | nil => exact alive
  | cons s rest ih =>
    rw [lastLoad?, Option.or_eq_none_iff] at quiet
    exact ih quiet.1 (step_alive quiet.2 alive)

theorem load_alive {g loaded : Game} {level : Level} (h : g.load level = .ok loaded)
    (enemies : 0 < g.rules.enemyHp) (bosses : 0 < g.rules.bossHp) :
    ∀ e ∈ loaded.world.hostiles, e.alive = true := by
  obtain ⟨layout, read, rfl⟩ := load_eq_ok h
  obtain ⟨-, player, -, rfl⟩ := Level.layout_eq_ok_iff.mp read
  intro e member
  obtain ⟨⟨p, m⟩, -, placed⟩ := List.mem_filterMap.mp member
  cases m <;> cases placed
  · exact decide_eq_true enemies
  · exact decide_eq_true bosses

end Game

/-! ## The account -/

/-- The entities of a level against those it was loaded with, and the actions between. -/
structure Accounted (w w' : World) (deeds : List Deed) : Prop
    extends Balanced w w' (deeds.map Deed.outcome) where
  lasting : ∀ kind, kind = .rubble ∨ kind = .exit →
    w'.fixtures.filter (·.kind = kind) = w.fixtures.filter (·.kind = kind)
  keys : w.fixtures.countP (·.kind.isKey) =
    w'.fixtures.countP (·.kind.isKey) + (deeds.map Deed.outcome).countP Outcome.isStored
  locks : w.fixtures.countP (·.kind.isLock) =
    w'.fixtures.countP (·.kind.isLock) + (deeds.map Deed.outcome).countP Outcome.isUnlocked
  each : ∀ deed ∈ deeds, deed.before.Lost deed.after deed.outcome

namespace Console

/-- The actions of a run of operations, those started by keys among them. -/
def deeds (c : Console) (operations : List Operation) : List Deed :=
  c.game.deeds (c.script operations)

theorem load_of_landed? {c : Console} {level : Level}
    (landed : c.landed? (.load level) = some level) :
    c.game.load level = .ok (c.step (.load level)).2.game := by
  simp only [landed?, step] at landed ⊢
  cases loaded : c.game.load level with
  | ok game => rfl
  | error fault => simp [loaded] at landed

/-- However a level is played, its entities are those it was loaded with, but for the ones that
the outcomes of the actions report; and no hostile is left without strength if none came so. -/
theorem run_accounted {c loaded : Console} {level : Level}
    (landed : c.landed? (.load level) = some level) (entered : (c.step (.load level)).2 = loaded)
    {operations : List Operation} (since : loaded.lastLoad? operations = none) :
    Accounted loaded.game.world (loaded.run operations).game.world (loaded.deeds operations) ∧
      (0 < c.game.rules.enemyHp → 0 < c.game.rules.bossHp →
        ∀ e ∈ (loaded.run operations).game.world.hostiles, 0 < e.hp) := by
  rw [lastLoad?_eq] at since
  have steps := run_game loaded operations
  have balanced := Game.run_balanced since
  rw [← steps] at balanced
  refine ⟨⟨balanced, fun kind => balanced.lasting, balanced.keys, balanced.locks,
    loaded.game.deeds_lost _⟩, ?_⟩
  intro enemies bosses e member
  have accepted := load_of_landed? landed
  rw [entered] at accepted
  have alive := Game.load_alive accepted enemies bosses
  rw [steps] at member
  exact of_decide_eq_true (Game.run_alive since alive e member)

/-- A key taken, a lock opened, and an enemy erased beside rubble that stays. -/
theorem run_accounted_vault :
    let level : Level :=
      { number := 1, name := "Vault", instructions := "", map := .ofRows ["#@aA#", "#GBR>"] }
    let operations : List Operation :=
      [.load { level with map := [] }, .keys [.char 'y', .char 'l', .char 'p', .char '3'],
        .keys [.char 'd', .char 'd']]
    let loaded := ((Console.start {}).step (.load level)).2
    (Console.start {}).landed? (.load level) = some level ∧
      loaded.lastLoad? operations = none ∧
      (loaded.deeds operations).map Deed.outcome =
        [.yanked (.stored 'a'), .moved ⟨1, none⟩, .put (.unlocked 'a'), .struck ⟨3, 1⟩] ∧
      Accounted loaded.game.world (loaded.run operations).game.world (loaded.deeds operations) ∧
      ∀ e ∈ (loaded.run operations).game.world.hostiles, 0 < e.hp := by
  intro level operations loaded
  have landed : (Console.start {}).landed? (.load level) = some level := by decide +kernel
  have since : loaded.lastLoad? operations = none := by decide +kernel
  have told : (loaded.deeds operations).map Deed.outcome =
      [.yanked (.stored 'a'), .moved ⟨1, none⟩, .put (.unlocked 'a'), .struck ⟨3, 1⟩] := by
    decide +kernel
  have entered : ((Console.start {}).step (.load level)).2 = loaded := rfl
  obtain ⟨accounted, alive⟩ := run_accounted landed entered since
  exact ⟨landed, since, told, accounted, alive (by decide) (by decide)⟩

end Console
end GridRunner
