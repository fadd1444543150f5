import GridRunner.Proofs.Console.Exploration
import GridRunner.Proofs.Console.Strokes
import GridRunner.Proofs.Level.Sectors
import GridRunner.Proofs.World.Corridors
import GridRunner.Session

/-! # Sectors cleared within par

A sector is a guarded corridor (`corridor_enter`).  A guard falls to two keystrokes, a sweep up to
it and a counted delete, and one sweep more leads to the exit (`type_felling`,
`type_fellings_sweep`).  The par of a sector is its number, and that leaves room for all of its
guards.
-/

namespace GridRunner

namespace Curriculum

/-! ## The corridor of a sector -/

theorem isFloor_enter_sector (rules : Rules) (number : Nat) (w : World) {x : Int} (left : 1 ≤ x)
    (right : x ≤ (gate number).x) :
    (w.enter (Level.layoutFrom rules (sector number).map ⟨1, 1⟩)).isFloor ⟨x, 1⟩ = true := by
  obtain ⟨column, rfl⟩ := Int.eq_ofNat_of_zero_le (Int.le_trans Int.one_nonneg left)
  dsimp only [gate] at right
  have floor : (sector number).map.bare.at? column 1 = some Grid.floor :=
    floor_sector (by omega) (by omega)
  have inside : (w.enter (Level.layoutFrom rules (sector number).map ⟨1, 1⟩)).contains
      ⟨column, 1⟩ = true := by
    rw [World.contains_iff]
    simp only [World.enter, Level.layoutFrom, width_sector, height_sector]
    omega
  rw [World.isFloor, World.tile?, if_pos inside, beq_iff_eq]
  exact floor

/-- The player of a sector just loaded stands at the start of a guarded corridor. -/
theorem corridor_enter {rules : Rules} {number : Nat} {layout : Layout}
    (loaded : (sector number).layout rules = .ok layout) (w : World) :
    (w.enter layout).Corridor (guards rules.toRuleSheet number) (gate number) := by
  have placed := World.wellPlaced_enter loaded w
  obtain ⟨-, player, spawns, rfl⟩ := Level.layout_eq_ok_iff.mp loaded
  rw [spawns_sector, List.singleton_inj] at spawns
  subst spawns
  exact {
    placed
    steady := rfl
    incomplete := rfl
    hostiles := hostiles_sector rules number ⟨1, 1⟩
    fixtures := fixtures_sector rules number ⟨1, 1⟩
    row := rfl
    short := by
      simp only [World.enter, Level.layoutFrom, gate]
      omega
    floor := fun x after before =>
      isFloor_enter_sector rules number w (Int.le_of_lt after) (Int.le_of_lt before)
    posted := by
      intro e member
      obtain ⟨i, within, here⟩ := exists_post_of_mem_guards member
      rw [here]
      refine ⟨rfl, ?_⟩
      simp only [World.enter, Level.layoutFrom, gate, post]
      omega
    spaced := guards_spaced rules.toRuleSheet number }

/-! ## The keys that clear it -/

def blows (e : Entity) : Nat := if e.kind = .boss then 5 else 3

/-- The keys that fell a guard: a sweep up to it and a counted delete. -/
def felling (e : Entity) : List Key :=
  [.char '$', .char (Nat.digitChar (blows e)), .char 'd', .char 'd']

def fellings (number : Nat) : List Key := (guards {} number).flatMap felling

def clearance (number : Nat) : List Key := fellings number ++ [.char '$']

/-- Enough strikes for the guard. -/
def Falls (e : Entity) : Prop := e.hp - .ofNat (blows e) * 2 ≤ 0

theorem falls_of_mem_guards {number : Nat} {e : Entity} (member : e ∈ guards {} number) :
    Falls e := by
  rw [guards, List.mem_append, List.mem_map, List.mem_map] at member
  rcases member with ⟨i, -, rfl⟩ | ⟨i, -, rfl⟩
  · exact (by decide : (5 : Int32) - .ofNat 3 * 2 ≤ 0)
  · exact (by decide : (10 : Int32) - .ofNat 5 * 2 ≤ 0)

end Curriculum

open Curriculum

/-! ## The game -/

namespace Game

/-- A game under the default rules in a guarded corridor, with some keystrokes counted. -/
structure Marching (g : Game) (level : Level) (guards : List Entity) (goal : Position)
    (strokes : Nat) : Prop where
  rules : g.rules = {}
  level : g.level = some level
  normal : g.world.mode = .normal
  counted : g.world.keystrokes = capped strokes
  corridor : g.world.Corridor guards goal

def primed (g : Game) : World :=
  { g.world with keystrokes := capped (g.world.keystrokes + 1) }

-- For any walk and any delete: of a given sweep the kernel would take every step.
theorem apply_move (g : Game) (m : Move) :
    (g.apply (.move m)).2 = { g with world := (g.primed.move m).2 } := rfl

theorem apply_delete (g : Game) (scope : Scope) (count : Nat) :
    (g.apply (.delete scope count)).2 = { g with world := (g.primed.delete g.rules count).2 } := rfl

namespace Marching

variable {g : Game} {level : Level} {e : Entity} {guards rest : List Entity} {goal : Position}
  {strokes : Nat}

/-- A resolved command counts, whatever becomes of the corridor. -/
theorem apply (h : g.Marching level guards goal strokes) (action : Action)
    (corridor : (g.apply action).2.world.Corridor rest goal) :
    (g.apply action).2.Marching level rest goal (strokes + 1) := by
  refine ⟨h.rules, h.level, (g.follow_mode (.action action)).trans h.normal, ?_, corridor⟩
  rw [← capped_capped_add_one, ← h.counted]
  exact g.follow_keystrokes action

theorem primed_corridor (h : g.Marching level guards goal strokes) :
    g.primed.Corridor guards goal :=
  h.corridor.same ⟨rfl, rfl, rfl, rfl, rfl⟩ rfl rfl rfl

theorem sweep (h : g.Marching level (e :: rest) goal strokes) :
    (g.apply (.move (.sweep 1))).2.Marching level (e :: rest) goal (strokes + 1) ∧
      (g.apply (.move (.sweep 1))).2.world.aura = false ∧
      (g.apply (.move (.sweep 1))).2.world.player.position.x + 1 = e.position.x := by
  obtain ⟨corridor, dull, beside⟩ := h.primed_corridor.sweep
  refine ⟨h.apply _ ?_, ?_, ?_⟩
  · rw [apply_move]
    exact corridor
  · rw [apply_move]
    exact dull
  · rw [apply_move]
    exact beside

theorem strike (h : g.Marching level (e :: rest) goal strokes) (dull : g.world.aura = false)
    (beside : g.world.player.position.x + 1 = e.position.x) (falls : Falls e) :
    (g.apply (.delete .line (blows e))).2.Marching level rest goal (strokes + 1) := by
  have damage : g.primed.strikeDamage g.rules = 2 := by
    have unlit : g.primed.aura = false := dull
    rw [World.strikeDamage, unlit, h.rules]
    rfl
  have some : 1 ≤ blows e := by
    unfold blows
    split <;> decide
  refine h.apply _ ?_
  rw [apply_delete]
  exact h.primed_corridor.strike beside some (damage ▸ falls)

/-- With all guards gone a sweep completes the level. -/
theorem leave (h : g.Marching level [] goal strokes) :
    (g.apply (.move (.sweep 1))).2.world.complete = true ∧
      (g.apply (.move (.sweep 1))).2.world.keystrokes = capped (strokes + 1) := by
  constructor
  · rw [apply_move]
    exact h.primed_corridor.leave
  · rw [← capped_capped_add_one, ← h.counted]
    exact g.follow_keystrokes (.move (.sweep 1))

end Marching
end Game

/-! ## The console -/

namespace Console

variable {c : Console}

theorem press_sweep (idle : c.chord = .idle) (normal : c.game.world.mode = .normal) :
    (c.press (.char '$')).2 = ⟨(c.game.apply (.move (.sweep 1))).2, .idle⟩ := by
  have resolved : c.chord.press c.game.rules.wordJump c.game.world.mode (.char '$') =
      Chord.resolve (.move (.sweep 1)) := by
    rw [idle, normal]
    rfl
  rw [press_of_resolve resolved]

theorem type_delete (idle : c.chord = .idle) (normal : c.game.world.mode = .normal) (e : Entity) :
    (c.type [.char (Nat.digitChar (blows e)), .char 'd', .char 'd']).2 =
      ⟨(c.game.apply (.delete .line (blows e))).2, .idle⟩ := by
  obtain ⟨game, chord⟩ := c
  dsimp only at idle normal
  subst idle
  -- The chord grows by the digit and by the operator, and the operator again resolves it.
  have digit : Chord.idle.press game.rules.wordJump game.world.mode
      (.char (Nat.digitChar (blows e))) =
        Chord.pending { digits := [Nat.digitChar (blows e)] } := by
    rw [normal]
    unfold blows
    split <;> rfl
  have operator : Chord.press game.rules.wordJump game.world.mode
      { digits := [Nat.digitChar (blows e)] } (.char 'd') =
        Chord.pending { digits := [Nat.digitChar (blows e)], deleting := true } := by
    rw [normal]
    rfl
  have again : Chord.press game.rules.wordJump game.world.mode
      { digits := [Nat.digitChar (blows e)], deleting := true } (.char 'd') =
        Chord.resolve (.delete .line (blows e)) := by
    rw [normal]
    unfold blows
    split <;> rfl
  rw [type_cons, press_of_pending digit, type_cons, press_of_pending operator, type_cons,
    press_of_resolve again]
  rfl

theorem type_felling (idle : c.chord = .idle) {level : Level} {e : Entity} {rest : List Entity}
    {goal : Position} {strokes : Nat} (marching : c.game.Marching level (e :: rest) goal strokes)
    (falls : Falls e) :
    (c.type (felling e)).2.chord = .idle ∧
      (c.type (felling e)).2.game.Marching level rest goal (strokes + 2) := by
  obtain ⟨swept, dull, beside⟩ := marching.sweep
  rw [felling, type_cons, press_sweep idle marching.normal, type_delete rfl swept.normal]
  exact ⟨rfl, swept.strike dull beside falls⟩

theorem type_fellings (idle : c.chord = .idle) {level : Level} {guards : List Entity}
    {goal : Position} {strokes : Nat} (marching : c.game.Marching level guards goal strokes)
    (fall : ∀ e ∈ guards, Falls e) :
    (c.type (guards.flatMap felling)).2.chord = .idle ∧
      (c.type (guards.flatMap felling)).2.game.Marching level [] goal
        (strokes + 2 * guards.length) := by
  induction guards generalizing c strokes with
  | nil => exact ⟨idle, marching⟩
  | cons e rest ih =>
    obtain ⟨falls, fall⟩ := List.forall_mem_cons.mp fall
    obtain ⟨idle, marching⟩ := type_felling idle marching falls
    obtain ⟨idle, marching⟩ := ih idle marching fall
    have total : strokes + 2 * (e :: rest).length = strokes + 2 + 2 * rest.length := by
      rw [List.length_cons]
      omega
    rw [List.flatMap_cons, type_append, total]
    exact ⟨idle, marching⟩

/-- A sweep after all fellings completes the level. -/
theorem type_fellings_sweep (idle : c.chord = .idle) {level : Level} {guards : List Entity}
    {goal : Position} {strokes : Nat} (marching : c.game.Marching level guards goal strokes)
    (fall : ∀ e ∈ guards, Falls e) :
    (c.type (guards.flatMap felling ++ [.char '$'])).2.game.world.complete = true ∧
      (c.type (guards.flatMap felling ++ [.char '$'])).2.game.world.keystrokes =
        capped (strokes + 2 * guards.length + 1) ∧
      (c.type (guards.flatMap felling ++ [.char '$'])).2.game.level = some level := by
  obtain ⟨idle, marching⟩ := type_fellings idle marching fall
  obtain ⟨complete, counted⟩ := marching.leave
  rw [type_append, type_cons, press_sweep idle marching.normal]
  exact ⟨complete, counted, marching.level⟩

theorem run_load_keys {level : Level} {loaded : Game} (h : c.game.load level = .ok loaded)
    (keys : List Key) :
    c.run [.load level, .keys keys] = (({ c with game := loaded } : Console).type keys).2 := by
  simp only [run, List.foldl_cons, List.foldl_nil, step, h]

/-- A sector just loaded. -/
theorem marching_load {g loaded : Game} {number : Nat} (rules : g.rules = {})
    (h : g.load (sector number) = .ok loaded) :
    loaded.Marching (sector number) (guards {} number) (gate number) 0 := by
  obtain ⟨layout, read, rfl⟩ := Game.load_eq_ok h
  rw [rules] at read
  have corridor := corridor_enter read g.world
  exact ⟨rules, rfl, rfl, rfl, corridor.same ⟨rfl, rfl, rfl, rfl, rfl⟩ rfl rfl rfl⟩

/-- The last sweep of its clearance completes a sector. -/
theorem run_clearance {number : Nat} {loaded : Game}
    (load : (start {}).game.load (sector number) = .ok loaded) :
    let opened := (start {}).run [.load (sector number), .keys (fellings number)]
    let cleared := (start {}).run [.load (sector number), .keys (clearance number)]
    opened.game.world.complete = false ∧
      cleared.game.world.complete = true ∧
      cleared.game.world.keystrokes = capped (2 * (sentries number + bosses number) + 1) ∧
      cleared.game.par = number := by
  intro opened cleared
  let entered : Console := ⟨loaded, .idle⟩
  have opened_eq : opened = (entered.type (fellings number)).2 := run_load_keys load _
  have cleared_eq : cleared = (entered.type (clearance number)).2 := run_load_keys load _
  have idle : entered.chord = .idle := rfl
  have marching : entered.game.Marching (sector number) (guards {} number) (gate number) 0 :=
    marching_load rfl load
  have fall : ∀ e ∈ guards {} number, Falls e := fun e member => falls_of_mem_guards member
  obtain ⟨-, felled⟩ := type_fellings idle marching fall
  obtain ⟨complete, counted, level⟩ := type_fellings_sweep idle marching fall
  rw [← fellings, ← opened_eq] at felled
  rw [← fellings, ← clearance, ← cleared_eq] at complete counted level
  rw [Nat.zero_add, length_guards] at counted
  refine ⟨felled.corridor.incomplete, complete, counted, ?_⟩
  rw [Game.par, level]
  rfl

/-- Every sector that is not too wide can be played, whatever the rules, and cleared with two
keystrokes for each guard and one more, which is within its par. -/
theorem sector_cleared (number : Nat) :
    let s := 1 + (number - 11) / 5
    let b := if 10 ∣ number then 1 else 0
    let breadth := 9 + 2 * s + 2 * b
    (∀ g : Game, ((∃ loaded, g.load (sector number) = .ok loaded) ↔ breadth ≤ 256) ∧
      (256 < breadth → g.load (sector number) = .error (.tooLarge breadth 3))) ∧
    (11 ≤ number → breadth ≤ 256 →
      let opened := (start {}).run [.load (sector number), .keys (fellings number)]
      let cleared := (start {}).run [.load (sector number), .keys (clearance number)]
      opened.game.world.complete = false ∧
        cleared.game.world.complete = true ∧
        cleared.game.world.keystrokes = 2 * (s + b) + 1 ∧
        2 * (s + b) + 1 ≤ number ∧
        Rating.grade cleared.game.world.keystrokes cleared.game.par = .s) := by
  intro s b breadth
  have sentries : sentries number = s := rfl
  have bosses : bosses number = b := by
    simp only [bosses, b, Nat.dvd_iff_mod_eq_zero]
  have breadth_eq :
      9 + 2 * Curriculum.sentries number + 2 * Curriculum.bosses number = breadth := by
    rw [sentries, bosses]
  have loads (g : Game) : (∃ loaded, g.load (sector number) = .ok loaded) ↔ breadth ≤ 256 := by
    rw [Game.exists_load_iff, playable_sector_iff, breadth_eq]
    rfl
  refine ⟨fun g => ⟨loads g, fun wide => ?_⟩, fun generated within => ?_⟩
  · rw [← breadth_eq] at wide
    rw [Game.load_eq_error_iff, ← breadth_eq]
    exact sector_tooLarge g.rules wide
  · obtain ⟨loaded, load⟩ := (loads (start {}).game).mpr within
    obtain ⟨incomplete, complete, counted, par⟩ := run_clearance load
    have few : 2 * (s + b) + 1 ≤ number := by
      have one : b ≤ 1 := by
        simp only [b]
        split <;> decide
      omega
    have uncapped : capped (2 * (s + b) + 1) = 2 * (s + b) + 1 := by
      rw [capped, countLimit]
      omega
    rw [sentries, bosses, uncapped] at counted
    intro opened cleared
    refine ⟨incomplete, complete, counted, few, ?_⟩
    rw [counted, par, Rating.grade, if_pos few]

/-- Sector 20 has two sentries and a boss; sector 640 is too wide. -/
theorem sector_cleared_boss :
    (start {}).game.load (sector 640) = .error (.tooLarge 263 3) ∧
      let opened := (start {}).run [.load (sector 20), .keys (fellings 20)]
      let cleared := (start {}).run [.load (sector 20), .keys (clearance 20)]
      (∃ loaded, (start {}).game.load (sector 20) = .ok loaded) ∧
        clearance 20 = "$3dd$3dd$5dd$".toList.map .char ∧
        opened.game.world.complete = false ∧ cleared.game.world.complete = true ∧
        cleared.game.world.keystrokes = 7 ∧
        Rating.grade cleared.game.world.keystrokes cleared.game.par = .s := by
  have wide := ((sector_cleared 640).1 (start {}).game).2 (by decide)
  obtain ⟨loads, clears⟩ := sector_cleared 20
  obtain ⟨incomplete, complete, strokes, -, grade⟩ := clears (by decide) (by decide)
  exact ⟨wide, ((loads _).1.mpr (by decide)), by decide, incomplete, complete, strokes, grade⟩

end Console
end GridRunner
