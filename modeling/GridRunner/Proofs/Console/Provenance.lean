import GridRunner.Proofs.Console.Account
import GridRunner.Proofs.Console.Picture
import GridRunner.Proofs.World.Letters

/-! # Where the letters come from

In every state of a run, across any number of levels, a register holds the letter of the last yank
into it that stored one, which is a key of the level then in play.  A lock goes only by a put from a
register that holds its letter (`registers_run`).
-/

namespace GridRunner

def Level.HasKey (level : Level) (letter : Char) : Prop :=
  ∃ p, level.map.glyph? p = some letter ∧ Marker.ofGlyph? letter = some (.key letter)

theorem Level.hasKey_of_mem_layout {rules : Rules} {level : Level} {layout : Layout}
    (read : level.layout rules = .ok layout) {e : Entity} (member : e ∈ layout.fixtures)
    {letter : Char} (kind : e.kind = .key letter) : level.HasKey letter := by
  obtain ⟨-, player, -, rfl⟩ := layout_eq_ok_iff.mp read
  obtain ⟨⟨p, m⟩, mark, placed⟩ := List.mem_filterMap.mp member
  have key : m = .key letter := by
    cases m <;> cases placed <;> cases kind
    rfl
  subst key
  obtain ⟨glyph, cell, marker⟩ := Grid.mem_marks_iff.mp mark
  have same : letter = glyph := Marker.glyph_of_ofGlyph? marker
  subst same
  exact ⟨p, Grid.mem_cells_iff_glyph?.mp cell, marker⟩

/-- Of locks chosen by their kind all are left by an action that opens none of them. -/
theorem World.Lost.locks {w w' : World} {o : Outcome} (lost : w.Lost w' o)
    {chosen : Entity.Kind → Bool} (only : ∀ kind, chosen kind = true → kind.isLock = true)
    (shut : ∀ letter, o = .put (.unlocked letter) → chosen (.lock letter) = false) :
    w'.fixtures.filter (chosen ·.kind) = w.fixtures.filter (chosen ·.kind) := by
  have kept (same : w'.fixtures = w.fixtures) :
      w'.fixtures.filter (chosen ·.kind) = w.fixtures.filter (chosen ·.kind) := by rw [same]
  have others {kind : Entity.Kind} (other : chosen kind = false)
      (gone : LosesOne (·.kind = kind) w.fixtures w'.fixtures) :
      w'.fixtures.filter (chosen ·.kind) = w.fixtures.filter (chosen ·.kind) := by
    obtain ⟨front, e, back, rfl, before, after⟩ := gone
    simp [before, after, other]
  cases o with
  | moved r => exact kept lost.1
  | yanked r =>
    cases r with
    | stored letter =>
      exact others (Bool.eq_false_iff.mpr fun wanted => by cases only _ wanted) lost.2
    | nothingInRange => exact kept lost.1
  | put r =>
    cases r with
    | unlocked letter => exact others (shut letter rfl) lost.2
    | emptyRegister => exact kept lost.1
    | mismatch held required => exact kept lost.1
    | nothingInRange => exact kept lost.1
  | purged r =>
    cases r with
    | purged => exact kept lost.1
    | invalidSyntax => exact kept lost.1
    | noTarget => exact kept lost.1
    | damaged hp => exact kept lost.1
  | struck dealt => exact kept lost.1

namespace Game

def Step.action? : Step → Option Action
  | .apply action | .perform action => some action
  | .load _ | .say _ | .finish | .setMode _ => none

def reported? (g : Game) (action : Action) (s : Step) : Option Char :=
  if s.action? = some action then (g.outcome? s).bind Outcome.letter? else none

/-- The letter that a step stores in the register. -/
def stored? (g : Game) (r : Char) (s : Step) : Option Char := g.reported? (.yank r) s

/-- The letter with which a step opens a lock from the register. -/
def unlocked? (g : Game) (r : Char) (s : Step) : Option Char := g.reported? (.put r) s

def lastStored? (g : Game) (r : Char) : List Step → Option Char
  | [] => none
  | s :: rest => ((g.step s).lastStored? r rest).or (g.stored? r s)

section Step

variable {g : Game} {s : Step} {r letter : Char}

/-- An action of a run meets the world as it is, but for the count of keystrokes. -/
theorem acts_of_action? {action : Action} (h : s.action? = some action) :
    ∃ w : World, w.registers = g.world.registers ∧
      g.outcome? s = some (w.perform g.rules action).1 ∧
      (g.step s).world = (w.perform g.rules action).2 := by
  cases s with
  | apply action' =>
    cases h
    exact ⟨{ g.world with keystrokes := capped (g.world.keystrokes + 1) }, rfl, rfl, rfl⟩
  | perform action' =>
    cases h
    exact ⟨g.world, rfl, rfl, rfl⟩
  | load level => cases h
  | say message => cases h
  | finish => cases h
  | setMode mode => cases h

theorem stored?_eq_some_iff :
    g.stored? r s = some letter ↔
      s.action? = some (.yank r) ∧ g.outcome? s = some (.yanked (.stored letter)) := by
  rw [stored?, reported?, Option.ite_none_right_eq_some]
  refine and_congr_right fun acts => ?_
  obtain ⟨w, -, told, -⟩ := acts_of_action? (g := g) acts
  rw [told, World.perform, Option.bind_some, Outcome.letter?_yanked, Option.some.injEq,
    Outcome.yanked.injEq]

theorem unlocked?_eq_some_iff :
    g.unlocked? r s = some letter ↔
      s.action? = some (.put r) ∧ g.outcome? s = some (.put (.unlocked letter)) := by
  rw [unlocked?, reported?, Option.ite_none_right_eq_some]
  refine and_congr_right fun acts => ?_
  obtain ⟨w, -, told, -⟩ := acts_of_action? (g := g) acts
  rw [told, World.perform, Option.bind_some, Outcome.letter?_put, Option.some.injEq,
    Outcome.put.injEq]

/-- Only a put opens a lock. -/
theorem exists_unlocked? (told : g.outcome? s = some (.put (.unlocked letter))) :
    ∃ r, g.unlocked? r s = some letter := by
  cases acts : s.action? with
  | none => cases s <;> cases acts <;> cases told
  | some action =>
    obtain ⟨w, -, told', -⟩ := acts_of_action? (g := g) acts
    rw [told', Option.some.injEq] at told
    cases action with
    | put r => exact ⟨r, unlocked?_eq_some_iff.mpr ⟨acts, told'.trans (congrArg some told)⟩⟩
    | move m => cases told
    | yank r => cases told
    | purge command => cases told
    | delete scope count => cases told

theorem held_of_unlocked? (opened : g.unlocked? r s = some letter) :
    g.world.registers.get? r = some letter := by
  obtain ⟨acts, told⟩ := unlocked?_eq_some_iff.mp opened
  obtain ⟨w, registers, told', -⟩ := acts_of_action? (g := g) acts
  rw [told', Option.some.injEq, World.perform, Outcome.put.injEq] at told
  rw [← registers, World.held_of_unlocked told]

/-- The registers are written by yanks only, and by nothing else that happens to a game. -/
theorem step_registers (g : Game) (r : Char) (s : Step) :
    (g.step s).world.registers.get? r = (g.stored? r s).or (g.world.registers.get? r) := by
  cases acts : s.action? with
  | some action =>
    obtain ⟨w, registers, told, left⟩ := acts_of_action? (g := g) acts
    rw [left, World.perform_registers, registers, stored?, reported?, acts, told, Option.bind_some]
    simp only [Option.some.injEq]
  | none =>
    have silent : g.stored? r s = none := by simp [stored?, reported?, acts]
    rw [silent, Option.none_or]
    cases s with
    | load level =>
      rw [step]
      cases loaded : g.load level with
      | error fault => rfl
      | ok after =>
        obtain ⟨layout, -, rfl⟩ := load_eq_ok loaded
        rfl
    | apply action => cases acts
    | perform action => cases acts
    | say message => rfl
    | finish => rfl
    | setMode mode => rfl

/-- The chosen locks stay, unless one of them is opened or a level is loaded. -/
theorem step_locks {chosen : Entity.Kind → Bool}
    (only : ∀ kind, chosen kind = true → kind.isLock = true) (quiet : g.landed? s = none)
    (shut : ∀ r letter, g.unlocked? r s = some letter → chosen (.lock letter) = false) :
    (g.step s).world.fixtures.filter (chosen ·.kind) =
      g.world.fixtures.filter (chosen ·.kind) := by
  cases told : g.outcome? s with
  | some o =>
    refine (step_lost told).locks only ?_
    rintro letter rfl
    obtain ⟨r, opened⟩ := exists_unlocked? told
    exact shut r letter opened
  | none =>
    cases s with
    | load level => rw [step_load_of_quiet quiet]
    | apply action => cases told
    | perform action => cases told
    | say message => rfl
    | finish => rfl
    | setMode mode => rfl

end Step

/-! ## Runs -/

theorem run_registers (g : Game) (r : Char) (steps : List Step) :
    (g.run steps).world.registers.get? r =
      (g.lastStored? r steps).or (g.world.registers.get? r) := by
  induction steps generalizing g with
  | nil => rfl
  | cons s rest ih => rw [run_cons, ih, step_registers, lastStored?, Option.or_assoc]

theorem lastStored?_eq_some {g : Game} {r letter : Char} {steps : List Step}
    (h : g.lastStored? r steps = some letter) :
    ∃ before yank since, steps = before ++ yank :: since ∧
      (g.run before).stored? r yank = some letter ∧
      (g.run (before ++ [yank])).lastStored? r since = none := by
  induction steps generalizing g with
  | nil => cases h
  | cons first rest ih =>
    rw [lastStored?] at h
    cases later : (g.step first).lastStored? r rest with
    | none =>
      rw [later, Option.none_or] at h
      exact ⟨[], first, rest, rfl, h, later⟩
    | some found =>
      rw [later, Option.some_or] at h
      obtain ⟨before, yank, since, rfl, stored, silent⟩ := ih (later.trans h)
      exact ⟨first :: before, yank, since, rfl, stored, silent⟩

/-- The key of a stored letter stands on the map of the level in play. -/
theorem hasKey_of_stored? {rules : Rules} {earlier : List Step} {s : Step} {r letter : Char}
    (stored : ((start rules).run earlier).stored? r s = some letter) :
    ∃ level, (start rules).lastLoad? earlier = some level ∧ level.HasKey letter := by
  obtain ⟨-, told⟩ := stored?_eq_some_iff.mp stored
  obtain ⟨-, front, key, back, kind, split, -⟩ := step_lost told
  have member : key ∈ ((start rules).run earlier).world.fixtures := by simp [split]
  cases last : (start rules).lastLoad? earlier with
  | none =>
    have fewer := (run_balanced last).fixtures.subset member
    cases fewer
  | some level =>
    obtain ⟨layout, w₀, read, thins⟩ := dwindles_run last
    exact ⟨level, rfl, Level.hasKey_of_mem_layout read (thins.fixtures.subset member) kind⟩

/-- What a step of a run has to do with the registers, against the steps before it. -/
structure Traced (rules : Rules) (earlier : List Step) (s : Step) : Prop where
  /-- A register holds the letter stored in it last. -/
  holds : ∀ r, ((start rules).run earlier).world.registers.get? r =
    (start rules).lastStored? r earlier
  /-- A step that stores nothing in a register leaves it as it is. -/
  keeps : ∀ r, ((start rules).run earlier).stored? r s = none →
    ((start rules).run (earlier ++ [s])).world.registers.get? r =
      ((start rules).run earlier).world.registers.get? r
  /-- What is stored is a key of the level loaded last. -/
  keyed : ∀ r letter, ((start rules).run earlier).stored? r s = some letter →
    ∃ level, (start rules).lastLoad? earlier = some level ∧ level.HasKey letter
  /-- The letter that opens a lock was stored in that register, and none after it. -/
  opened : ∀ r letter, ((start rules).run earlier).unlocked? r s = some letter →
    (∃ before yank since, earlier = before ++ yank :: since ∧
      ((start rules).run before).stored? r yank = some letter ∧
      ((start rules).run (before ++ [yank])).lastStored? r since = none) ∧
    LosesOne (·.kind = .lock letter) ((start rules).run earlier).world.fixtures
      ((start rules).run (earlier ++ [s])).world.fixtures
  /-- Without such a put, and without a new level, all locks stay. -/
  locked : ((start rules).run earlier).landed? s = none →
    (∀ r, ((start rules).run earlier).unlocked? r s = none) →
    ((start rules).run (earlier ++ [s])).world.fixtures.filter (·.kind.isLock) =
      ((start rules).run earlier).world.fixtures.filter (·.kind.isLock)

theorem start_registers (rules : Rules) (r : Char) (steps : List Step) :
    ((start rules).run steps).world.registers.get? r = (start rules).lastStored? r steps := by
  rw [run_registers]
  exact Option.or_none

theorem traced (rules : Rules) (earlier : List Step) (s : Step) : Traced rules earlier s where
  holds r := start_registers rules r earlier
  keeps r silent := by
    rw [run_append, run_cons, run_nil, step_registers, silent, Option.none_or]
  keyed _ _ := hasKey_of_stored?
  opened r letter opened := by
    have held := held_of_unlocked? opened
    rw [start_registers] at held
    obtain ⟨-, told⟩ := unlocked?_eq_some_iff.mp opened
    rw [run_append]
    exact ⟨lastStored?_eq_some held, (step_lost told).2⟩
  locked quiet shut := by
    rw [run_append]
    refine step_locks (fun _ => id) quiet fun r letter opened => ?_
    rw [shut r] at opened
    cases opened

end Game

namespace Console

/-- Whatever is done to a game, and however many levels it loads, each register holds the letter of
the last successful yank into it, which was a key of its level; and each lock that is opened is
opened with a letter that was yanked so. -/
theorem registers_run (rules : Rules) (operations : List Operation) :
    (∀ r, ((start rules).run operations).game.world.registers.get? r =
      (Game.start rules).lastStored? r ((start rules).script operations)) ∧
    ∀ earlier s later, (start rules).script operations = earlier ++ s :: later →
      Game.Traced rules earlier s := by
  refine ⟨fun r => ?_, fun earlier s later _ => Game.traced rules earlier s⟩
  rw [run_game]
  exact Game.start_registers rules r _

/-- A letter yanked in one level, not overwritten by a yank that fails, opens a lock of the next. -/
theorem registers_run_across_levels :
    let keys : Level := { number := 1, name := "Keys", instructions := "", map := .ofRows ["@a.b"] }
    let gate : Level := { number := 2, name := "Gate", instructions := "", map := .ofRows ["@A>"] }
    let yank : Operation := .keys [.char '"', .char 'd', .char 'y']
    let before := [.load keys, yank, yank, .load gate, .load { gate with map := [] }]
    let earlier := (start {}).script before
    let put : Game.Step := .apply (.put 'd')
    (start {}).script (before ++ [.apply (.put 'd')]) = earlier ++ [put] ∧
      ((start {}).run before).game.world.registers.get? 'd' = some 'a' ∧
      (Game.start {}).lastStored? 'd' earlier = some 'a' ∧
      ((Game.start {}).run earlier).unlocked? 'd' put = some 'a' ∧ Game.Traced {} earlier put := by
  intro keys gate yank before earlier put
  have script : (start {}).script (before ++ [.apply (.put 'd')]) = earlier ++ [put] :=
    script_append (start {}) before [.apply (.put 'd')]
  have stored : (Game.start {}).lastStored? 'd' earlier = some 'a' := by decide +kernel
  have opened : ((Game.start {}).run earlier).unlocked? 'd' put = some 'a' := by decide +kernel
  have held := (registers_run {} before).1 'd'
  have traced := (registers_run {} (before ++ [.apply (.put 'd')])).2 earlier put [] script
  exact ⟨script, held.trans stored, stored, opened, traced⟩

end Console
end GridRunner
