import GridRunner.Proofs.Chord.Motions
import GridRunner.Proofs.Console.Exploration
import GridRunner.Proofs.World.Room

/-! # Counts beyond the map

On a level in play no walk gets further than the longer side of the map, whatever its step is.  So
it is all one how long a longer walk is, and at which number typed counts are held (`move_bounded`).
-/

namespace GridRunner

theorem Motion.plain_of_ofChar? {key : Char} {motion : Motion}
    (found : Motion.ofChar? key = some motion) (other : key ≠ '0') :
    key ≠ '"' ∧ key.isDigit = false := by
  constructor
  · rintro rfl
    cases found
  · refine Bool.eq_false_iff.mpr fun digit => ?_
    rw [Motion.ofChar?_of_isDigit digit other] at found
    cases found

namespace Console

variable {c : Console}

/-- Digits go into the count. -/
theorem type_digits (takes : c.game.world.mode.TakesChords) (settled : c.chord.register ≠ .awaited)
    {digits : List Char} (numeral : ∀ d ∈ digits, d.isDigit)
    (leads : c.chord.digits = [] → digits.head? ≠ some '0') :
    (c.type (digits.map .char)).2 =
      { c with chord := { c.chord with digits := c.chord.digits ++ digits } } := by
  induction digits generalizing c with
  | nil => simp [type]
  | cons d rest ih =>
    obtain ⟨digit, numeral⟩ := List.forall_mem_cons.mp numeral
    have first : c.chord.digits = [] → d ≠ '0' := by
      rintro empty rfl
      exact leads empty rfl
    rw [List.map_cons, type_cons,
      press_of_pending (Chord.press_digit c.game.rules.wordJump takes settled digit first)]
    have later := ih (c := { c with chord := { c.chord with digits := c.chord.digits ++ [d] } })
      takes settled numeral (by simp)
    simpa using later

/-- A motion typed with a count makes a walk of that count, however large it is. -/
theorem type_counted (inside : c.game.world.contains c.game.world.player.position = true)
    (small : max c.game.world.width c.game.world.height ≤ countLimit) (idle : c.chord = .idle)
    (takes : c.game.world.mode.TakesChords) {digits : List Char} {key : Char} {motion : Motion}
    (numeral : ∀ d ∈ digits, d.isDigit) (typed : digits ≠ []) (leads : digits.head? ≠ some '0')
    (found : Motion.ofChar? key = some motion) (other : key ≠ '0') {m : Move}
    (counted : m = motion.walk (Nat.ofDigitChars 10 digits 0) c.game.rules.wordJump)
    (fits : World.SumsFit m.dx m.dy m.repeats c.game.world) :
    (c.type (digits.map .char ++ [.char key])).2.game = (c.game.apply (.move m)).2 := by
  subst counted
  have settled : c.chord.register ≠ .awaited := by simp [idle, Chord.idle]
  have counting : Chord.Counting { c.chord with digits := c.chord.digits ++ digits } := by
    rw [idle]
    exact ⟨rfl, rfl⟩
  have count : Chord.count { c.chord with digits := c.chord.digits ++ digits } =
      capped (Nat.ofDigitChars 10 digits 0) := by
    simp [Chord.count, idle, Chord.idle, typed]
  obtain ⟨notQuote, notDigit⟩ := Motion.plain_of_ofChar? found other
  have resolved := counting.press_motion c.game.rules.wordJump takes notQuote (.inl notDigit) found
  have same := World.move_walk_capped
    (w := { c.game.world with keystrokes := capped (c.game.world.keystrokes + 1) }) inside small
    (fits.same c.game.world.aura _)
  rw [type_append, type_digits takes settled numeral fun _ => leads, type_cons,
    press_of_resolve resolved, count, type]
  simp only [Game.apply, Game.perform, World.perform, same]

/-- On a level in play a walk takes fewer steps than the longer side of the map has cells.  One with
at least as many repeats is always stopped, and how many more they are makes no difference; sweeps
are such walks.  So a motion typed with a count makes a walk of exactly that count.  All of it needs
the sums of the walk to stay in range, as they do if its step is not of an immense length. -/
theorem move_bounded (rules : Rules) (operations : List Operation) (level : Level)
    (loaded : (start rules).lastLoad? operations = some level) (c : Console)
    (reached : c.game = ((start rules).run operations).game) :
    let w := c.game.world
    let extent := max level.map.width level.map.height
    (∀ (dx dy : Int) (repeats : Nat), dx.natAbs ≤ 2147483392 → dy.natAbs ≤ 2147483392 →
      w.SumsFit dx dy repeats) ∧
    (∀ m : Move, w.SumsFit m.dx m.dy m.repeats → (w.move m).1.steps ≤ extent - 1) ∧
    (∀ (dx dy : Int) (count count' repeats repeats' : Nat), w.SumsFit dx dy repeats →
      (1 < count ↔ 1 < count') → extent ≤ repeats → extent ≤ repeats' →
        w.move ⟨dx, dy, count, repeats⟩ = w.move ⟨dx, dy, count', repeats'⟩ ∧
          (w.move ⟨dx, dy, count, repeats⟩).1.stop ≠ none) ∧
    (∀ dx : Int, w.SumsFit dx 0 Rules.maxExtent → (w.move (.sweep dx)).1.stop ≠ none) ∧
    (c.chord = .idle → w.mode.TakesChords → ∀ (digits : List Char) (key : Char) (motion : Motion),
      (∀ d ∈ digits, d.isDigit) → digits ≠ [] → digits.head? ≠ some '0' →
      Motion.ofChar? key = some motion → key ≠ '0' →
      ∀ m, m = motion.walk (Nat.ofDigitChars 10 digits 0) rules.wordJump →
        w.SumsFit m.dx m.dy m.repeats →
          (c.type (digits.map .char ++ [.char key])).2.game = (c.game.apply (.move m)).2) := by
  intro w extent
  have onMap := onMap_run loaded
  rw [← reached] at onMap
  have placed : w.WellPlaced := onMap.wellPlaced
  have inside := placed.player_inside
  have sides : max w.width w.height = extent :=
    congrArg₂ max onMap.width onMap.height
  have within : max w.width w.height ≤ Rules.maxExtent :=
    Nat.max_le.mpr ⟨placed.width_le, placed.height_le⟩
  have small : max w.width w.height ≤ countLimit := Nat.le_trans within (by decide)
  have same : c.game.rules = rules := by rw [reached, run_rules]; rfl
  refine ⟨fun dx dy repeats across down => placed.sumsFit across down repeats, fun m fits => ?_,
    fun dx dy count count' repeats repeats' fits counted long long' => ?_,
    fun dx => World.stop_sweep inside within, ?_⟩
  · exact Nat.le_sub_one_of_lt (sides ▸ World.steps_move_lt inside fits)
  · exact World.move_eq_of_long inside fits counted (sides ▸ long) (sides ▸ long')
  · intro idle takes digits key motion numeral typed leads found other m counted fits
    rw [← same] at counted
    exact type_counted inside small idle takes numeral typed leads found other counted fits

/-- A step at an angle slides along the lower edge and makes one step less than the map is wide; a
count beyond the limit leads to the right edge and counts as itself. -/
theorem move_bounded_slide :
    let level : Level :=
      { number := 1, name := "Hall", instructions := "", map := .ofRows ["@...", "....", "...."] }
    let operations : List Operation := [.load level]
    let c := (start {}).run operations
    let digits := ['5', '0', '0', '0', '0', '0', '0', '0', '0', '0']
    (start {}).lastLoad? operations = some level ∧ c.chord = .idle ∧
      c.game.world.mode.TakesChords ∧
      (c.game.world.move ⟨1, 1, 9, 4⟩).1 = ⟨3, some .edge⟩ ∧
      c.game.world.move ⟨1, 1, 9, 4⟩ = c.game.world.move ⟨1, 1, 5, 5000000000⟩ ∧
      (c.game.world.move (.sweep 1)).1.stop ≠ none ∧
      (c.type (digits.map .char ++ [.char 'l'])).2.game =
        (c.game.apply (.move (.counted 1 0 5000000000))).2 := by
  intro level operations c digits
  have loaded : (start {}).lastLoad? operations = some level := by decide +kernel
  have idle : c.chord = .idle := by decide +kernel
  have takes : c.game.world.mode.TakesChords := .inl (by decide +kernel)
  have numeral : ∀ d ∈ digits, d.isDigit := List.all_eq_true.mp rfl
  obtain ⟨fits, -, long, sweeps, counts⟩ := move_bounded {} operations level loaded c rfl
  have slides := fits 1 1 4 (by decide) (by decide)
  refine ⟨loaded, idle, takes, by decide +kernel, ?_, sweeps 1 (fits 1 0 _ (by decide) (by decide)),
    ?_⟩
  · exact (long 1 1 9 5 4 5000000000 slides (by decide) (by decide +kernel) (by decide +kernel)).1
  · exact counts idle takes digits 'l' .right numeral (by decide) (by decide) rfl (by decide) _ rfl
      (fits 1 0 _ (by decide) (by decide))

end Console
end GridRunner
