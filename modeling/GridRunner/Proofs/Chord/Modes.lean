import GridRunner.Proofs.Chord.Grammar

/-! # Chords in their modes

What a chord may hold depends on the mode: a text only on the command line, and there and in
insert mode nothing else.  A key does one of five things (`Reacts`), and one that tells the game
anything leaves an idle chord behind, so what follows is read as by a new one.
-/

namespace GridRunner

def Signal.action? : Signal → Option Action
  | .mode _ => none
  | .action a => some a

theorem Mode.TakesChords.ne_command {m : Mode} (takes : m.TakesChords) : m ≠ .command := by
  rcases takes with rfl | rfl | rfl <;> decide

theorem Mode.TakesChords.ne_insert {m : Mode} (takes : m.TakesChords) : m ≠ .insert := by
  rcases takes with rfl | rfl | rfl <;> decide

namespace Chord

/-- The quote was typed, and the name of the register is awaited. -/
def armed (c : Chord) : Bool := decide (c.register = .awaited)

def named? (c : Chord) : Option Char :=
  match c.register with
  | .named name => some name
  | _ => none

/-! ## What a key does -/

inductive Grows : Chord → Chord → Prop
  | ignored (c : Chord) : Grows c c
  | quote {c : Chord} : c.register = .unnamed → Grows c { c with register := .awaited }
  | name {c : Chord} (name : Char) :
      c.register = .awaited → Grows c { c with register := .named name }
  | digit {c : Chord} {d : Char} : d.isDigit → (c.digits = [] → d ≠ '0') →
      Grows c { c with digits := c.digits ++ [d] }
  | operator (c : Chord) : Grows c { c with deleting := true }

/-- Everything that a key can do to a chord in a mode. -/
inductive Reacts (m : Mode) (c : Chord) : Response → Prop
  | grow {next : Chord} : m ≠ .command → c.Grows next → (m = .insert → next = c) →
      Reacts m c next.pending
  | edit (text : List Char) : m = .command → Reacts m c (c.edited text)
  | submit : m = .command →
      Reacts m c ⟨idle, [.action (.purge (.ofList c.command)), .mode .normal], ""⟩
  | resolve (action : Action) : m.TakesChords → Reacts m c (resolve action)
  | switch (next : Mode) : Reacts m c (enterMode next)

section Reaction

variable (jump : Int32) {m : Mode} (c : Chord)

theorem Grows.reacts {c next : Chord} (grows : c.Grows next) (takes : m.TakesChords) :
    Reacts m c next.pending :=
  .grow takes.ne_command grows fun insert => absurd insert takes.ne_insert

theorem exists_motion_eq_resolve (motion : Motion) :
    ∃ action, c.motion jump motion = Chord.resolve action := by
  unfold Chord.motion
  split
  · exact ⟨_, rfl⟩
  · exact ⟨_, rfl⟩

theorem commandKey_reacts (takes : m.TakesChords) (key : Char) :
    Reacts m c (c.commandKey jump key) := by
  unfold commandKey
  split
  · exact .resolve _ takes
  · exact .resolve _ takes
  · exact .switch _
  · exact .switch _
  · exact .switch _
  · exact .switch _
  · split
    · split
      · exact .resolve _ takes
      · exact (Grows.operator c).reacts takes
    · split
      · rename_i motion _
        obtain ⟨action, resolved⟩ := exists_motion_eq_resolve jump c motion
        rw [resolved]
        exact .resolve action takes
      · exact (Grows.ignored c).reacts takes

theorem normalChar_reacts (takes : m.TakesChords) (key : Char) :
    Reacts m c (c.normalChar jump key) := by
  unfold normalChar
  split
  · rename_i armed
    exact (Grows.name key armed).reacts takes
  · split
    · rename_i quote
      exact (Grows.quote quote.2).reacts takes
    · split
      · rename_i digit
        have leads : c.digits = [] → key ≠ '0' := by
          rintro empty rfl
          exact digit.2 ⟨rfl, List.isEmpty_iff.mpr empty⟩
        exact (Grows.digit digit.1 leads).reacts takes
      · exact commandKey_reacts jump c takes key

theorem commandLine_reacts (key : Key) : Reacts .command c (c.commandLine key) := by
  cases key with
  | enter => exact .submit rfl
  | backspace => exact .edit _ rfl
  | char key => exact .edit _ rfl
  | escape => exact .edit _ rfl

theorem press_reacts_of_takesChords (takes : m.TakesChords) (key : Key) :
    Reacts m c (c.press jump m key) := by
  cases key with
  | escape => exact .switch .normal
  | char key =>
    rw [press_char jump takes]
    exact normalChar_reacts jump c takes key
  | enter =>
    have ignored : c.press jump m .enter = c.pending := by rcases takes with rfl | rfl | rfl <;> rfl
    rw [ignored]
    exact (Grows.ignored c).reacts takes
  | backspace =>
    have ignored : c.press jump m .backspace = c.pending := by
      rcases takes with rfl | rfl | rfl <;> rfl
    rw [ignored]
    exact (Grows.ignored c).reacts takes

theorem press_reacts (m : Mode) (key : Key) : Reacts m c (c.press jump m key) := by
  cases m with
  | normal => exact press_reacts_of_takesChords jump c (.inl rfl) key
  | visual => exact press_reacts_of_takesChords jump c (.inr (.inl rfl)) key
  | visualLine => exact press_reacts_of_takesChords jump c (.inr (.inr rfl)) key
  | command =>
    unfold press
    split
    · exact .switch .normal
    · exact commandLine_reacts c key
  | insert =>
    unfold press
    split
    · exact .switch .normal
    · exact .grow (by decide) (.ignored c) fun _ => rfl

end Reaction

namespace Response

def modeAfter (m : Mode) (r : Response) : Mode := r.signals.foldl Signal.modeAfter m

def actions (r : Response) : List Action := r.signals.filterMap Signal.action?

end Response

section Reacts

variable {m : Mode} {c : Chord} {r : Response}

/-- A key that tells the game anything leaves nothing behind. -/
theorem Reacts.idle (reacts : Reacts m c r) (told : r.signals ≠ []) : r.chord = Chord.idle := by
  cases reacts with
  | grow => exact absurd rfl told
  | edit => exact absurd rfl told
  | submit => rfl
  | resolve => rfl
  | switch => rfl

theorem Reacts.length_actions_le (reacts : Reacts m c r) : r.actions.length ≤ 1 := by
  cases reacts with
  | grow => exact Nat.zero_le 1
  | edit => exact Nat.zero_le 1
  | submit => exact Nat.le_refl 1
  | resolve => exact Nat.le_refl 1
  | switch => exact Nat.zero_le 1

/-- The command bar shows the text in command mode, and what is pending in any other. -/
theorem Reacts.echo (reacts : Reacts m c r) :
    r.echo = if r.modeAfter m = .command then .ofList (':' :: r.chord.command)
      else r.chord.echo := by
  cases reacts with
  | grow elsewhere => exact (if_neg elsewhere).symm
  | edit text here => exact (if_pos here).symm
  | submit => rfl
  | resolve action takes => exact (if_neg takes.ne_command).symm
  | switch next => cases next <;> rfl

end Reacts

/-! ## What a chord holds -/

/-- What a chord can hold in a mode. -/
structure Settled (m : Mode) (c : Chord) : Prop where
  no_text : m ≠ .command → c.command = []
  no_opening : m = .command ∨ m = .insert →
    c.digits = [] ∧ c.deleting = false ∧ c.named? = none ∧ c.armed = false
  unnamed : c.armed = true → c.named? = none
  numeral : (∀ d ∈ c.digits, d.isDigit) ∧ c.digits.head? ≠ some '0'

theorem settled_idle (m : Mode) : Settled m idle where
  no_text _ := rfl
  no_opening _ := ⟨rfl, rfl, rfl, rfl⟩
  unnamed _ := rfl
  numeral := ⟨by simp [idle], by simp [idle]⟩

variable {m : Mode} {c : Chord}

theorem named?_eq_none_of_armed (armed : c.armed = true) : c.named? = none := by
  have awaited : c.register = .awaited := of_decide_eq_true armed
  rw [named?, awaited]

theorem Grows.command_eq {next : Chord} (grows : c.Grows next) : next.command = c.command := by
  cases grows <;> rfl

theorem Grows.numeral {next : Chord} (grows : c.Grows next)
    (h : (∀ d ∈ c.digits, d.isDigit) ∧ c.digits.head? ≠ some '0') :
    (∀ d ∈ next.digits, d.isDigit) ∧ next.digits.head? ≠ some '0' := by
  cases grows with
  | ignored => exact h
  | quote => exact h
  | name => exact h
  | operator => exact h
  | @digit d digit leads =>
    refine ⟨?_, ?_⟩
    · intro e he
      rcases List.mem_append.mp he with earlier | last
      · exact h.1 e earlier
      · rw [List.mem_singleton.mp last]
        exact digit
    · cases held : c.digits with
      | nil => simpa using leads held
      | cons first rest => simpa [held] using h.2

theorem Settled.react {r : Response} (settled : Settled m c) (reacts : Reacts m c r) :
    Settled (r.modeAfter m) r.chord := by
  cases reacts with
  | @grow next elsewhere grows kept =>
    refine ⟨fun _ => grows.command_eq.trans (settled.no_text elsewhere), ?_,
      named?_eq_none_of_armed, grows.numeral settled.numeral⟩
    rintro (command | insert)
    · exact absurd command elsewhere
    · have same : next = c := kept insert
      rw [same]
      exact settled.no_opening (.inr insert)
  | edit text here =>
    exact ⟨fun elsewhere => absurd here elsewhere, settled.no_opening, settled.unnamed,
      settled.numeral⟩
  | submit => exact settled_idle _
  | resolve => exact settled_idle _
  | switch => exact settled_idle _

/-! ## Runs of keys -/

theorem feed_settled (jump : Int32) (settled : Settled m c) (keys : List Key) :
    Settled (feed jump m c keys).2.1 (feed jump m c keys).2.2 := by
  induction keys generalizing m c with
  | nil => exact settled
  | cons key rest ih => exact ih (settled.react (press_reacts jump c m key))

/-- The mode and the chord after a run of keys, typed to a new chord in normal mode. -/
def reached (jump : Int32) (keys : List Key) : Mode × Chord := (feed jump .normal idle keys).2

theorem feed_eq_reached (jump : Int32) (keys : List Key) :
    feed jump .normal idle keys =
      ((feed jump .normal idle keys).1, (reached jump keys).1, (reached jump keys).2) := rfl

def reply (jump : Int32) (keys : List Key) (key : Key) : Response :=
  (reached jump keys).2.press jump (reached jump keys).1 key

theorem reply_reacts (jump : Int32) (keys : List Key) (key : Key) :
    Reacts (reached jump keys).1 (reached jump keys).2 (reply jump keys key) :=
  press_reacts jump _ _ key

theorem feed_concat (jump : Int32) (keys : List Key) (key : Key) :
    feed jump .normal idle (keys ++ [key]) =
      ((feed jump .normal idle keys).1 ++ (reply jump keys key).signals,
        (reply jump keys key).modeAfter (reached jump keys).1, (reply jump keys key).chord) := by
  rw [feed_append (feed_eq_reached jump keys) [key]]
  simp only [feed, List.append_nil]
  rfl

/-- However keys are typed from normal mode on, the chord is settled in its mode and the command
bar shows it.  A key that tells the game anything leaves the keys behind it to a new chord. -/
theorem feed_faithful (jump : Int32) (keys : List Key) (key : Key) :
    Settled (reached jump keys).1 (reached jump keys).2 ∧
    reached jump (keys ++ [key]) =
      ((reply jump keys key).modeAfter (reached jump keys).1, (reply jump keys key).chord) ∧
    (reply jump keys key).echo =
      (if (reached jump (keys ++ [key])).1 = .command
        then .ofList (':' :: (reached jump (keys ++ [key])).2.command)
        else (reached jump (keys ++ [key])).2.echo) ∧
    (reply jump keys key).actions.length ≤ 1 ∧
    ((reply jump keys key).signals ≠ [] →
      (reached jump (keys ++ [key])).2 = idle ∧
      ∀ later, (feed jump .normal idle (keys ++ [key] ++ later)).1 =
        (feed jump .normal idle (keys ++ [key])).1 ++
          (feed jump (reached jump (keys ++ [key])).1 idle later).1) := by
  have reacts := reply_reacts jump keys key
  have next : reached jump (keys ++ [key]) =
      ((reply jump keys key).modeAfter (reached jump keys).1, (reply jump keys key).chord) := by
    rw [reached, feed_concat]
  refine ⟨feed_settled jump (settled_idle .normal) keys, next, ?_, reacts.length_actions_le, ?_⟩
  · rw [next]
    exact reacts.echo
  · intro told
    have left : (reached jump (keys ++ [key])).2 = idle := by
      rw [next]
      exact reacts.idle told
    refine ⟨left, ?_⟩
    intro later
    have split := feed_append (feed_eq_reached jump (keys ++ [key])) later
    rw [split, left]

/-- An escape in the middle of a delete. -/
theorem feed_faithful_escape :
    let keys : List Key := [.char '"', .char 'a', .char '3', .char 'd']
    let later : List Key := [.char 'j', .char ':', .char '0']
    Settled (reached 3 keys).1 (reached 3 keys).2 ∧
      (reply 3 keys .escape).echo = "" ∧ (reply 3 keys .escape).signals ≠ [] ∧
      (reached 3 (keys ++ [.escape])).2 = idle ∧
      (feed 3 .normal idle (keys ++ [.escape] ++ later)).1 =
        (feed 3 .normal idle (keys ++ [.escape])).1 ++
          (feed 3 (reached 3 (keys ++ [.escape])).1 idle later).1 := by
  intro keys later
  obtain ⟨settled, -, echo, -, afterwards⟩ := feed_faithful 3 keys .escape
  have told : (reply 3 keys .escape).signals ≠ [] := by decide
  obtain ⟨left, split⟩ := afterwards told
  refine ⟨settled, ?_, told, left, split later⟩
  rw [echo]
  decide

end Chord
end GridRunner
