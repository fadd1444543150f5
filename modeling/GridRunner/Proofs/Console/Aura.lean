import GridRunner.Proofs.Chord.Motions
import GridRunner.Proofs.Console.Strokes
import GridRunner.Proofs.World.Blows

/-! # The aura

A move raises the aura if it was typed with a count above one and drops it otherwise, whatever
becomes of the move; a load drops it, and nothing else touches it.  So the last move on the level in
play tells how hard a delete strikes (`aura_run`).
-/

namespace GridRunner

/-- The last of the moves was typed with a count above one. -/
def Move.Raised (moves : List Move) : Prop := ∃ m, moves.getLast? = some m ∧ 1 < m.count

theorem Move.raised_concat_iff {moves : List Move} {m : Move} :
    Move.Raised (moves ++ [m]) ↔ 1 < m.count := by
  simp [Raised]

theorem World.perform_aura (rules : Rules) (action : Action) (w : World) :
    (w.perform rules action).2.efficient = w.efficient ∧
      (w.perform rules action).2.aura =
        (action.move?.map fun m => decide (1 < m.count) || w.efficient).getD w.aura := by
  cases action with
  | move m =>
    obtain ⟨p, log, complete, -, moved⟩ := w.move_eq m
    rw [perform, moved]
    exact ⟨rfl, rfl⟩
  | yank register =>
    obtain ⟨fixtures, registers, log, -, taken⟩ := w.yank_eq register
    rw [perform, taken]
    exact ⟨rfl, rfl⟩
  | put register =>
    obtain ⟨fixtures, log, -, taken⟩ := w.put_eq register
    rw [perform, taken]
    exact ⟨rfl, rfl⟩
  | purge command =>
    obtain ⟨hostiles, log, -, hit⟩ := w.purge_eq rules command
    rw [perform, hit]
    exact ⟨rfl, rfl⟩
  | delete scope count =>
    obtain ⟨hostiles, log, -, hit⟩ := w.delete_eq rules count
    rw [perform, hit]
    exact ⟨rfl, rfl⟩

namespace Game

def Step.move? : Step → Option Move
  | .apply action | .perform action => action.move?
  | .load _ | .say _ | .finish | .setMode _ => none

/-- The moves made on the level in play, `earlier` being those before the steps. -/
def movesOn (g : Game) (earlier : List Move) : List Step → List Move
  | [] => earlier
  | s :: rest =>
      (g.step s).movesOn (if (g.landed? s).isSome then [] else earlier ++ s.move?.toList) rest

theorem movesOn_append (g : Game) (earlier : List Move) (before after : List Step) :
    g.movesOn earlier (before ++ after) =
      (g.run before).movesOn (g.movesOn earlier before) after := by
  induction before generalizing g earlier with
  | nil => rfl
  | cons s rest ih => exact ih (g.step s) _

theorem movesOn_of_plays (g : Game) (earlier : List Move) {steps : List Step}
    (play : ∀ s ∈ steps, s.Plays) :
    g.movesOn earlier steps = earlier ++ steps.filterMap Step.move? := by
  induction steps generalizing g earlier with
  | nil => simp [movesOn]
  | cons s rest ih =>
    have first := landed?_of_plays g (play s (by simp))
    rw [movesOn, ih _ _ fun s hs => play s (by simp [hs]), first]
    cases moved : s.move? with
    | none => simp [moved]
    | some m => simp [moved]

/-- The aura tells the last move, and only moves cause it. -/
structure Glows (moves : List Move) (g : Game) : Prop where
  steady : g.world.efficient = false
  aura : g.world.aura = true ↔ Move.Raised moves

theorem Glows.perform {moves : List Move} {g : Game} (glows : Glows moves g) (action : Action) :
    Glows (moves ++ action.move?.toList) (g.perform action).2 := by
  obtain ⟨efficient, aura⟩ := g.world.perform_aura g.rules action
  refine ⟨efficient.trans glows.steady, ?_⟩
  have after : (g.perform action).2.world.aura = _ := aura
  rw [after, glows.steady]
  cases action.move? with
  | none => simpa using glows.aura
  | some m => simp [Move.raised_concat_iff]

/-- A step without a move that leaves both flags alone. -/
theorem Glows.still {moves : List Move} {g g' : Game} (glows : Glows moves g)
    (efficient : g'.world.efficient = g.world.efficient) (aura : g'.world.aura = g.world.aura) :
    Glows (moves ++ []) g' := by
  rw [List.append_nil]
  exact ⟨efficient.trans glows.steady, aura ▸ glows.aura⟩

theorem Glows.step {moves : List Move} {g : Game} (glows : Glows moves g) (s : Step) :
    Glows (if (g.landed? s).isSome then [] else moves ++ s.move?.toList) (g.step s) := by
  cases s with
  | load level =>
    rw [landed?, Game.step]
    cases loaded : g.load level with
    | error fault => exact glows.still rfl rfl
    | ok after =>
      obtain ⟨layout, -, rfl⟩ := load_eq_ok loaded
      exact ⟨rfl, by simp [World.enter, World.note, Move.Raised]⟩
  | apply action =>
    have counted : Glows moves
        { g with world := { g.world with keystrokes := capped (g.world.keystrokes + 1) } } :=
      ⟨glows.steady, glows.aura⟩
    exact counted.perform action
  | perform action => exact glows.perform action
  | say message => exact glows.still rfl rfl
  | finish => exact glows.still rfl rfl
  | setMode mode => exact glows.still rfl rfl

theorem Glows.run {moves : List Move} {g : Game} (glows : Glows moves g) (steps : List Step) :
    Glows (g.movesOn moves steps) (g.run steps) := by
  induction steps generalizing g moves with
  | nil => exact glows
  | cons s rest ih => exact ih (glows.step s)

theorem glows_start (rules : Rules) : Glows [] (start rules) :=
  ⟨rfl, by simp [start, World.empty, World.note, Move.Raised]⟩

end Game

namespace Console

/-- Operations that make no move but by keys. -/
def Operation.ByKeys : Operation → Prop
  | .apply _ | .perform _ | .walk .. => False
  | .load _ | .keys _ | .say _ | .finish | .setMode _ => True

/-- The motions that a run of keys makes, each with the count it was typed with. -/
def typed (c : Console) : List Key → List (Motion × Nat)
  | [] => []
  | key :: rest => (c.chord.motion? c.game.world.mode key).toList ++ (c.press key).2.typed rest

def typedBy (c : Console) : Operation → List (Motion × Nat)
  | .keys keys => c.typed keys
  | _ => []

/-- The motions typed on the level in play, `earlier` being those before the operations. -/
def motionsOn (c : Console) (earlier : List (Motion × Nat)) :
    List Operation → List (Motion × Nat)
  | [] => earlier
  | o :: rest =>
      (c.step o).2.motionsOn (if (c.landed? o).isSome then [] else earlier ++ c.typedBy o) rest

/-! ## Typed motions and the moves they make -/

theorem filterMap_move?_response (c : Console) (key : Key) :
    ((c.response key).signals.map Signal.step).filterMap Game.Step.move? =
      ((c.chord.motion? c.game.world.mode key).map
        (Motion.moveOf c.game.rules.wordJump)).toList := by
  have told : Game.Step.move? ∘ Signal.step = fun s => s.action?.bind Action.move? := by
    funext s
    cases s <;> rfl
  rw [List.filterMap_map, told, ← List.filterMap_filterMap]
  exact Chord.moves_press c.game.rules.wordJump c.chord c.game.world.mode key

theorem filterMap_move?_keySteps (c : Console) (keys : List Key) :
    (c.keySteps keys).filterMap Game.Step.move? =
      (c.typed keys).map (Motion.moveOf c.game.rules.wordJump) := by
  induction keys generalizing c with
  | nil => rfl
  | cons key rest ih =>
    rw [keySteps, List.filterMap_append, filterMap_move?_response, ih, press_rules, typed,
      List.map_append, Option.toList_map]

theorem movesOn_operationSteps (c : Console) (earlier : List Move) {o : Operation}
    (byKeys : o.ByKeys) :
    c.game.movesOn earlier (c.operationSteps o) =
      if (c.landed? o).isSome then []
      else earlier ++ (c.typedBy o).map (Motion.moveOf c.game.rules.wordJump) := by
  cases o with
  | load level =>
    rw [landed?_eq, operationSteps, Game.lastLoad?, Game.lastLoad?, Option.none_or]
    rfl
  | keys keys =>
    rw [operationSteps, Game.movesOn_of_plays _ _ (c.keySteps_play keys),
      filterMap_move?_keySteps]
    rfl
  | say message => rfl
  | finish => rfl
  | setMode mode => rfl
  | apply action => cases byKeys
  | perform action => cases byKeys
  | walk dx dy count => cases byKeys

theorem movesOn_script (c : Console) (earlier : List (Motion × Nat)) {operations : List Operation}
    (byKeys : ∀ o ∈ operations, o.ByKeys) :
    c.game.movesOn (earlier.map (Motion.moveOf c.game.rules.wordJump)) (c.script operations) =
      (c.motionsOn earlier operations).map (Motion.moveOf c.game.rules.wordJump) := by
  induction operations generalizing c earlier with
  | nil => rfl
  | cons o rest ih =>
    have rules : (c.step o).2.game.rules = c.game.rules := c.run_rules [o]
    have later := ih (c.step o).2 (if (c.landed? o).isSome then [] else earlier ++ c.typedBy o)
      fun o ho => byKeys o (by simp [ho])
    rw [rules] at later
    rw [script, Game.movesOn_append, ← step_game, movesOn_operationSteps c _ (byKeys o (by simp)),
      motionsOn, ← later]
    split
    · rfl
    · rw [List.map_append]

theorem raised_moveOf_iff (jump : Int32) (motions : List (Motion × Nat)) :
    Move.Raised (motions.map (Motion.moveOf jump)) ↔
      ∃ motion count, motions.getLast? = some (motion, count) ∧
        motion.TakesCount ∧ 1 < count := by
  rw [Move.Raised, List.getLast?_map]
  cases motions.getLast? with
  | none => simp
  | some typed =>
    obtain ⟨motion, count⟩ := typed
    simp [Motion.one_lt_count_moveOf_iff]

theorem glows_run (rules : Rules) (operations : List Operation) :
    Game.Glows ((Game.start rules).movesOn [] ((start rules).script operations))
      ((start rules).run operations).game := by
  rw [run_game]
  exact (Game.glows_start rules).run _

/-- In every state the aura is up if and only if the last move on the level in play was typed with a
count above one.  If moves are made by keys only, that move was one of the motions that take a
count.  A delete strikes with the damage of the aura then, and with the lesser one otherwise. -/
theorem aura_run (rules : Rules) (operations : List Operation) :
    let g := ((start rules).run operations).game
    let moves := (Game.start rules).movesOn [] ((start rules).script operations)
    g.world.efficient = false ∧ (g.world.aura = true ↔ Move.Raised moves) ∧
      ((∀ o ∈ operations, o.ByKeys) →
        (Move.Raised moves ↔
          ∃ motion count, ((start rules).motionsOn [] operations).getLast? = some (motion, count) ∧
            motion.TakesCount ∧ 1 < count)) ∧
      ∀ count,
        (Move.Raised moves →
          g.world.Deals rules.auraDamage count (g.world.delete g.rules count)) ∧
        (¬ Move.Raised moves →
          g.world.Deals rules.strikeDamage count (g.world.delete g.rules count)) := by
  intro g moves
  have glows : Game.Glows moves g := glows_run rules operations
  have damage : g.world.strikeDamage g.rules =
      if g.world.aura then rules.auraDamage else rules.strikeDamage := by
    have same : g.rules = rules := run_rules _ operations
    rw [World.strikeDamage, same]
  refine ⟨glows.steady, glows.aura, fun byKeys => ?_, fun count => ?_⟩
  · have typed := (start rules).movesOn_script [] byKeys
    have made : moves = _ := typed
    rw [made, raised_moveOf_iff]
  · have dealt := World.delete_deals g.rules count g.world
    rw [damage] at dealt
    constructor
    · intro raised
      rwa [if_pos (glows.aura.mpr raised)] at dealt
    · intro dropped
      rwa [if_neg (mt glows.aura.mp dropped)] at dealt

/-- A counted walk into a hostile raises the aura, which outlasts a yank and a level that is
refused; a walk to the end of the line drops it, for all the count before it. -/
theorem aura_run_blocked_then_swept :
    let level : Level := { number := 1, name := "Ring", instructions := "", map := .ofRows ["@.G"] }
    let raising : List Operation :=
      [.load level, .keys [.char '9', .char 'l', .char 'y'], .load { level with map := [] }]
    let dropping := raising ++ [.keys [.char '3', .char '$']]
    let raised := ((start {}).run raising).game
    let dropped := ((start {}).run dropping).game
    (start {}).motionsOn [] raising = [(.right, 9)] ∧ raised.world.aura = true ∧
      raised.world.Deals 5 2 (raised.world.delete raised.rules 2) ∧
      (start {}).motionsOn [] dropping = [(.right, 9), (.lineEnd, 3)] ∧
      dropped.world.aura = false ∧
      dropped.world.Deals 2 2 (dropped.world.delete dropped.rules 2) := by
  intro level raising dropping
  have byKeys : ∀ o ∈ raising, o.ByKeys := by simp [raising, Operation.ByKeys]
  have byKeys' : ∀ o ∈ dropping, o.ByKeys := by simp [dropping, raising, Operation.ByKeys]
  have motions : (start {}).motionsOn [] raising = [(.right, 9)] := by decide +kernel
  have motions' : (start {}).motionsOn [] dropping = [(.right, 9), (.lineEnd, 3)] := by
    decide +kernel
  obtain ⟨-, aura, keyed, deals⟩ := aura_run {} raising
  obtain ⟨-, aura', keyed', deals'⟩ := aura_run {} dropping
  have up := (keyed byKeys).mpr ⟨.right, 9, by rw [motions]; rfl, by decide, by decide⟩
  have down := mt (keyed' byKeys').mp (by rw [motions']; simp [Motion.TakesCount])
  exact ⟨motions, aura.mpr up, (deals 2).1 up, motions', Bool.eq_false_iff.mpr (mt aura'.mp down),
    (deals' 2).2 down⟩

end Console

end GridRunner
