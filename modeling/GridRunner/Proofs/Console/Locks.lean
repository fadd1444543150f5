import GridRunner.Proofs.Console.Exploration
import GridRunner.Proofs.Console.Provenance
import GridRunner.Proofs.Level.Locks
import GridRunner.Proofs.Level.Sectors
import GridRunner.Proofs.World.Puts

/-! # Which locks can be opened

A register holds the letter of a key, and a lock opens only to a letter that a register holds.  So a
lock whose letter is no key on any map stays shut in every run of every game (`run_locks`).  Every
other lock goes by a yank and a put between it and its key (`type_yank_put`).
-/

namespace GridRunner

/-! ## Between a key and its lock -/

namespace World

/-- A key in reach before everything else is the one that a yank takes. -/
theorem yank_of_first {w : World} {p : Position} {letter : Char} {rest : List Entity}
    (fixtures : w.fixtures = .key p letter :: rest) (near : w.player.position.reaches p = true)
    (register : Char) :
    w.yank register =
      (.stored letter,
        { w with
          fixtures := rest
          registers := w.registers.insert register letter }.note
          s!"Success: {(Entity.key p letter).name} extracted into register '{register}'") := by
  have reached : (Entity.key p letter).keyInReach? w.player.position =
      some (letter, (Entity.key p letter).name) := if_pos near
  simp [yank, fixtures, reached]

end World

namespace Level

/-- A row in which the player stands between a key and a lock. -/
def between (letter glyph : Char) : Level :=
  { number := 1, name := "", instructions := "", map := [[letter, '@', glyph]] }

theorem layout_between (rules : Rules) {letter glyph : Char}
    (key : Marker.ofGlyph? letter = some (.key letter))
    (lock : Marker.ofGlyph? glyph = some (.lock glyph)) :
    ∃ layout, (between letter glyph).layout rules = .ok layout ∧ layout.player = ⟨1, 0⟩ ∧
      layout.fixtures = [.key ⟨0, 0⟩ letter, .lock ⟨2, 0⟩ glyph] := by
  have player : Marker.ofGlyph? '@' = some .player := rfl
  have marks : (between letter glyph).map.marks =
      [(⟨0, 0⟩, .key letter), (⟨1, 0⟩, .player), (⟨2, 0⟩, .lock glyph)] := by
    simp [between, Grid.marks_eq, Grid.rowMarks, key, lock, player]
  have other (glyph : Char) {m : Marker} (marker : Marker.ofGlyph? glyph = some m)
      (different : m ≠ .player) : glyph ≠ '@' := by
    rintro rfl
    exact different (Option.some.inj (marker.symm.trans player))
  have playable : (between letter glyph).map.Playable := by
    refine ⟨Nat.succ_pos 2, ?_, ?_, by simp [between, Grid.width], ?_⟩
    · change 3 ≤ Rules.maxExtent
      decide
    · change 1 ≤ Rules.maxExtent
      decide
    · simp [between, other letter key (by simp), other glyph lock (by simp)]
  have spawns : (between letter glyph).map.spawns = [⟨1, 0⟩] := by
    simp [Grid.spawns, marks]
  refine ⟨_, layout_eq_ok_iff.mpr ⟨playable, _, spawns, rfl⟩, rfl, ?_⟩
  simp [layoutFrom, marks, Marker.fixture?]

end Level

/-! ## Letters that no key has -/

namespace Game

variable {letter : Char} (keyless : Marker.ofGlyph? letter ≠ some (.key letter)) (rules : Rules)

include keyless

/-- A letter that is no key on a map never comes into a register. -/
theorem not_held_of_keyless (steps : List Step) (r : Char) :
    ((start rules).run steps).world.registers.get? r ≠ some letter := by
  intro held
  rw [start_registers] at held
  obtain ⟨before, yank, since, -, stored, -⟩ := lastStored?_eq_some held
  obtain ⟨level, -, p, -, key⟩ := hasKey_of_stored? stored
  exact keyless key

/-- A lock that opens to a letter of no key stays for as long as its level is in play. -/
theorem run_locks {earlier later : List Step}
    (quiet : ((start rules).run earlier).lastLoad? later = none) :
    ((start rules).run (earlier ++ later)).world.fixtures.filter (·.kind = .lock letter) =
      ((start rules).run earlier).world.fixtures.filter (·.kind = .lock letter) := by
  -- The part of the run that is behind grows, because a register is known from the start of it.
  induction later generalizing earlier with
  | nil => rw [List.append_nil]
  | cons s rest ih =>
    obtain ⟨quietRest, quietFirst⟩ := Option.or_eq_none_iff.mp quiet
    have first :
        ((start rules).run (earlier ++ [s])).world.fixtures.filter (·.kind = .lock letter) =
        ((start rules).run earlier).world.fixtures.filter (·.kind = .lock letter) := by
      rw [run_append]
      have only (kind : Entity.Kind) (same : decide (kind = .lock letter) = true) :
          kind.isLock = true := by
        rw [of_decide_eq_true same]
        rfl
      refine step_locks only quietFirst fun r opened unlocked => decide_eq_false fun same => ?_
      rw [Entity.Kind.lock.inj same] at unlocked
      exact not_held_of_keyless keyless rules earlier r (held_of_unlocked? unlocked)
    have next : ((start rules).run (earlier ++ [s])).lastLoad? rest = none := by
      rw [run_append]
      exact quietRest
    rw [← first, ← ih next, List.append_assoc]
    rfl

end Game

namespace Console

variable {c : Console}

/-- From a cell with a key and a lock in reach, `y` and `p` take both away if the lock opens to the
letter of the key. -/
theorem type_yank_put (idle : c.chord = .idle) (normal : c.game.world.mode = .normal)
    {p q : Position} {letter glyph : Char}
    (fixtures : c.game.world.fixtures = [.key p letter, .lock q glyph])
    (key : c.game.world.player.position.reaches p = true)
    (lock : c.game.world.player.position.reaches q = true)
    (opens : Letter.lower glyph = letter) :
    (c.type [.char 'y', .char 'p']).2.game.world.fixtures = [] := by
  have yanks : c.chord.press c.game.rules.wordJump c.game.world.mode (.char 'y') =
      Chord.resolve (.yank '"') := by
    rw [idle, normal]
    rfl
  -- What either action meets is the world with one more keystroke counted.
  let counted (w : World) : World := { w with keystrokes := capped (w.keystrokes + 1) }
  let holding : World := ((counted c.game.world).yank '"').2
  have yanked := World.yank_of_first (w := counted c.game.world) fixtures key '"'
  have puts : Chord.idle.press c.game.rules.wordJump holding.mode (.char 'p') =
      Chord.resolve (.put '"') := by
    have same : holding.mode = c.game.world.mode := by simp only [holding, yanked]; rfl
    rw [same, normal]
    rfl
  have holds : (counted holding).registers.get? '"' = some letter := by
    simp [counted, holding, yanked, World.note]
  have near : (counted holding).nearLock (.lock q glyph) = true := by
    simp only [counted, holding, yanked]
    exact lock
  have left : (counted holding).fixtures = [] ++ [.lock q glyph] := by
    simp only [counted, holding, yanked]
    rfl
  have opened := World.put_of_opened holds left near (congrArg Entity.Kind.lock opens) (by simp)
  rw [type_cons, press_of_resolve yanks, type_cons, press_of_resolve puts]
  exact congrArg (fun answer => answer.2.fixtures) opened

/-- A key and a lock that opens to its letter are on a map together, and both go away there. -/
theorem between_opened (rules : Rules) {letter glyph : Char}
    (key : Marker.ofGlyph? letter = some (.key letter))
    (lock : Marker.ofGlyph? glyph = some (.lock glyph)) (opens : Letter.lower glyph = letter) :
    ((start rules).run [.load (.between letter glyph)]).game.world.fixtures =
        [.key ⟨0, 0⟩ letter, .lock ⟨2, 0⟩ glyph] ∧
      ((start rules).run
        [.load (.between letter glyph), .keys [.char 'y', .char 'p']]).game.world.fixtures =
          [] := by
  obtain ⟨layout, read, player, fixtures⟩ := Level.layout_between rules key lock
  have loaded : (start rules).run [.load (.between letter glyph)] =
      { start rules with
        game := { (start rules).game with
          world := ((start rules).game.world.enter layout).note
            s!"Level {(Level.between letter glyph).number}: {(Level.between letter glyph).name}"
          level := some (.between letter glyph) } } := by
    have read' : (Level.between letter glyph).layout (start rules).game.rules = .ok layout := read
    rw [run_cons, step, Game.load, read']
    rfl
  have here : ((start rules).run [.load (.between letter glyph)]).game.world.player.position =
      ⟨1, 0⟩ := by
    rw [loaded]
    exact player
  have listed : ((start rules).run [.load (.between letter glyph)]).game.world.fixtures =
      [.key ⟨0, 0⟩ letter, .lock ⟨2, 0⟩ glyph] := by
    rw [loaded]
    exact fixtures
  refine ⟨listed, ?_⟩
  exact type_yank_put (c := (start rules).run [.load (.between letter glyph)])
    (by rw [loaded]; rfl) (by rw [loaded]; rfl) listed (by rw [here]; rfl) (by rw [here]; rfl) opens

/-- A lock of a level is opened by the lowercase form of its glyph, and by nothing else.  If there
is such a form it is a key, and there is a level on which a yank and a put take the key and the
lock away.  If the glyph is its own form it is no key; then no register ever holds the letter, and
the locks that open to it stay for as long as their level is in play. -/
theorem lock_opens_iff {rules : Rules} {level : Level} {layout : Layout}
    (read : level.layout rules = .ok layout) {e : Entity} (member : e ∈ layout.fixtures)
    {letter : Char} (lock : e.kind = .lock letter) :
    (Marker.ofGlyph? letter = some (.key letter) ↔ letter ≠ e.symbol) ∧
    (letter ≠ e.symbol → ∃ (room : Level) (p q : Position),
      ((start rules).run [.load room]).game.world.fixtures =
        [.key p letter, .lock q e.symbol] ∧
      ((start rules).run [.load room, .keys [.char 'y', .char 'p']]).game.world.fixtures = []) ∧
    (letter = e.symbol → ∀ (rules : Rules) (before after : List Operation),
      (∀ r, ((start rules).run before).game.world.registers.get? r ≠ some letter) ∧
      (((start rules).run before).lastLoad? after = none →
        ((start rules).run (before ++ after)).game.world.fixtures.filter (·.kind = .lock letter) =
          ((start rules).run before).game.world.fixtures.filter (·.kind = .lock letter))) := by
  obtain ⟨upper, unlisted, rfl⟩ := Level.lock_of_mem_layout read member lock
  have glyph : Marker.ofGlyph? e.symbol = some (.lock e.symbol) :=
    Marker.ofGlyph?_eq_lock_iff.mpr ⟨upper, unlisted, rfl⟩
  have form := Marker.ofGlyph?_letter_iff upper
  refine ⟨form, ?_, ?_⟩
  · intro other
    exact ⟨.between (Letter.lower e.symbol) e.symbol, _, _,
      between_opened rules (form.mpr other) glyph rfl⟩
  · intro same rules before after
    have keyless : Marker.ofGlyph? (Letter.lower e.symbol) ≠ some (.key (Letter.lower e.symbol)) :=
      fun key => form.mp key same
    constructor
    · intro r
      rw [run_game]
      exact Game.not_held_of_keyless keyless rules _ r
    · intro quiet
      rw [lastLoad?_eq, run_game] at quiet
      rw [run_game, run_game, script_append]
      exact Game.run_locks keyless rules quiet

/-- Of two locks the one with a dotted capital opens to a plain `i`, and the one with a
double-struck capital to nothing that a register can hold, whatever is typed. -/
theorem lock_opens_iff_dotted_and_struck :
    let level : Level := { number := 1, name := "", instructions := "", map := .ofRows ["İ@ℂ"] }
    let dotted : Entity := .lock ⟨0, 0⟩ 'İ'
    let struck : Entity := .lock ⟨2, 0⟩ 'ℂ'
    (∃ layout, level.layout {} = .ok layout ∧ dotted ∈ layout.fixtures ∧
      struck ∈ layout.fixtures) ∧
    dotted.kind = .lock 'i' ∧ struck.kind = .lock 'ℂ' ∧
    Marker.ofGlyph? 'i' = some (.key 'i') ∧ Marker.ofGlyph? 'ℂ' ≠ some (.key 'ℂ') ∧
    (∃ (room : Level) (p q : Position),
      ((start {}).run [.load room]).game.world.fixtures = [.key p 'i', .lock q 'İ'] ∧
      ((start {}).run [.load room, .keys [.char 'y', .char 'p']]).game.world.fixtures = []) ∧
    (∀ operations r, ((start {}).run operations).game.world.registers.get? r ≠ some 'ℂ') ∧
    ∀ keys, ((start {}).run [.load level, .keys keys]).game.world.fixtures.filter
      (·.kind = .lock 'ℂ') = [struck] := by
  intro level dotted struck
  let layout := Level.layoutFrom {} level.map ⟨1, 0⟩
  have read : level.layout {} = .ok layout :=
    Level.layout_eq_ok_iff.mpr ⟨by decide +kernel, _, by decide +kernel, rfl⟩
  have listed : dotted ∈ layout.fixtures ∧ struck ∈ layout.fixtures := by decide +kernel
  have opened : dotted.kind = .lock 'i' := by decide +kernel
  have shut : struck.kind = .lock 'ℂ' := by decide +kernel
  have first := lock_opens_iff read listed.1 opened
  have second := lock_opens_iff read listed.2 shut
  refine ⟨⟨layout, read, listed⟩, opened, shut, first.1.mpr (by decide),
    fun key => second.1.mp key rfl, first.2.1 (by decide),
    fun operations r => (second.2.2 rfl {} operations []).1 r, fun keys => ?_⟩
  refine ((second.2.2 rfl {} [.load level] [.keys keys]).2 rfl).trans ?_
  decide +kernel

/-- A double-struck capital is accepted as a lock beside the lowercase letter it is the capital of,
but opens to itself, which is a lock again and no key. -/
theorem struck_lock_shut :
    let level : Level := { number := 1, name := "", instructions := "", map := .ofRows ["𝕔@ℂ"] }
    let played : List Operation := [.load level, .keys [.char 'y', .char 'p']]
    (level.layout {}).toOption.map Layout.fixtures = some [.key ⟨0, 0⟩ '𝕔', .lock ⟨2, 0⟩ 'ℂ'] ∧
      (Entity.lock ⟨2, 0⟩ 'ℂ').kind = .lock 'ℂ' ∧
      Marker.ofGlyph? 'ℂ' = some (.lock 'ℂ') ∧
      ((start {}).run played).game.world.registers.get? '"' = some '𝕔' ∧
      ((start {}).run played).game.world.fixtures = [.lock ⟨2, 0⟩ 'ℂ'] := by
  decide +kernel

end Console
end GridRunner
