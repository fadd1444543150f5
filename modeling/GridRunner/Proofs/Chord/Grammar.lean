import GridRunner.Chord

/-! # The grammar of chords

A chord opens with a count, a register and an operator.  However their keys are mixed, and
whatever ignored keys stand between them, the same chord is pending (`Opening.Mixes.feed`)
and the key that resolves it tells the game the same (`feed_mixed`).
-/

namespace GridRunner

/-- A key that does nothing to a chord, unless it is taken for the name of a register. -/
def Key.Inert : Key → Prop
  | .char c =>
      c.isDigit = false ∧
        c ∉ ['"', 'y', 'p', ':', 'v', 'V', 'i', 'd', 'h', 'j', 'k', 'l', 'w', 'b', '$']
  | .enter | .backspace => True
  | .escape => False

def Mode.TakesChords (m : Mode) : Prop := m = .normal ∨ m = .visual ∨ m = .visualLine

def Signal.modeAfter (m : Mode) : Signal → Mode
  | .mode next => next
  | .action _ => m

namespace Chord

/-- The signals of a run of keys, and the mode and the chord after it. -/
def feed (jump : Int32) (m : Mode) (c : Chord) : List Key → List Signal × Mode × Chord
  | [] => ([], m, c)
  | key :: rest =>
      let response := c.press jump m key
      let (signals, m, c) :=
        feed jump (response.signals.foldl Signal.modeAfter m) response.chord rest
      (response.signals ++ signals, m, c)

/-- What is said before the key that resolves a chord. -/
structure Opening where
  digits : List Char
  register : Option Char
  deleting : Bool

namespace Opening

/-- The digits are a count: a zero in front would be a motion. -/
def Typable (o : Opening) : Prop := (∀ d ∈ o.digits, d.isDigit) ∧ o.digits.head? ≠ some '0'

/-- `o.Mixes ignored keys`: the keys are the digits of `o` in order, its register name behind
its quote, its operator and the ignored keys, mixed in some way. -/
inductive Mixes : Opening → List Key → List Key → Prop
  | nil : Mixes ⟨[], none, false⟩ [] []
  | digit (d : Char) {digits register deleting ignored keys} :
      Mixes ⟨digits, register, deleting⟩ ignored keys →
      Mixes ⟨d :: digits, register, deleting⟩ ignored (.char d :: keys)
  | register (name : Char) {digits deleting ignored keys} :
      Mixes ⟨digits, none, deleting⟩ ignored keys →
      Mixes ⟨digits, some name, deleting⟩ ignored (.char '"' :: .char name :: keys)
  | operator {digits register ignored keys} :
      Mixes ⟨digits, register, false⟩ ignored keys →
      Mixes ⟨digits, register, true⟩ ignored (.char 'd' :: keys)
  | inert (key : Key) {o ignored keys} :
      Mixes o ignored keys → Mixes o (key :: ignored) (key :: keys)

def count (o : Opening) : Nat :=
  if o.digits = [] then 1 else min (Nat.ofDigitChars 10 o.digits 0) countLimit

def registerName (o : Opening) : Char := o.register.getD '"'

def Completes (o : Opening) (key : Char) : Prop :=
  key ∈ ['y', 'p', ':', 'v', 'V', 'i', 'h', 'j', 'k', 'l', 'w', 'b', '$'] ∨
    (key = 'd' ∧ o.deleting = true) ∨ (key = '0' ∧ o.digits = [])

/-- What the key that resolves a chord opened so tells the game. -/
inductive Resolves (jump : Int32) (o : Opening) : Char → Signal → Prop
  | yank : Resolves jump o 'y' (.action (.yank o.registerName))
  | put : Resolves jump o 'p' (.action (.put o.registerName))
  | command : Resolves jump o ':' (.mode .command)
  | visual : Resolves jump o 'v' (.mode .visual)
  | visualLine : Resolves jump o 'V' (.mode .visualLine)
  | insert : Resolves jump o 'i' (.mode .insert)
  | deleteLine : o.deleting = true → Resolves jump o 'd' (.action (.delete .line o.count))
  | deleteWord : o.deleting = true → Resolves jump o 'w' (.action (.delete .word o.count))
  | deleteChar {key m} : o.deleting = true → Motion.ofChar? key = some m → key ≠ 'w' →
      Resolves jump o key (.action (.delete .char o.count))
  | move {key m} : o.deleting = false → Motion.ofChar? key = some m →
      Resolves jump o key (.action (.move (m.walk o.count jump)))

end Opening

/-! ## One key -/

theorem normalChar_command (jump : Int32) {c : Chord} {key : Char}
    (settled : c.register ≠ .awaited) (notQuote : key ≠ '"')
    (notDigit : key.isDigit = false ∨ (key = '0' ∧ c.digits = [])) :
    c.normalChar jump key = c.commandKey jump key := by
  have passes : ¬(key.isDigit = true ∧ ¬(key = '0' ∧ c.digits.isEmpty = true)) := by
    rintro ⟨digit, counts⟩
    rcases notDigit with other | ⟨zero, empty⟩
    · rw [other] at digit
      cases digit
    · exact counts ⟨zero, List.isEmpty_iff.mpr empty⟩
  unfold normalChar
  cases chosen : c.register with
  | awaited => exact absurd chosen settled
  | unnamed => simp only [notQuote, false_and, if_false, if_neg passes]
  | named name => simp only [notQuote, false_and, if_false, if_neg passes]

theorem commandKey_inert (jump : Int32) (c : Chord) {key : Char} (h : (Key.char key).Inert) :
    c.commandKey jump key = c.pending := by
  have notDigit : key.isDigit = false := h.1
  have notZero : key ≠ '0' := by
    rintro rfl
    exact absurd notDigit (by decide)
  have other := h.2
  simp only [List.mem_cons, List.not_mem_nil, or_false, not_or] at other
  have noMotion : Motion.ofChar? key = none := by
    unfold Motion.ofChar?
    split <;> simp_all
  have noOperator : operator? key = none := operator?_of_ne (by simp_all)
  unfold commandKey
  split <;> simp_all

section Press

variable (jump : Int32) {m : Mode} (takes : m.TakesChords) {c : Chord}

include takes

theorem press_char (c : Chord) (key : Char) :
    c.press jump m (.char key) = c.normalChar jump key := by
  rcases takes with rfl | rfl | rfl <;> rfl

theorem press_quote (h : c.register = .unnamed) :
    c.press jump m (.char '"') = { c with register := .awaited }.pending := by
  rw [press_char jump takes]
  unfold normalChar
  simp [h]

theorem press_awaited (c : Chord) (name : Char) :
    { c with register := .awaited }.press jump m (.char name) =
      { c with register := .named name }.pending := by
  rw [press_char jump takes]
  rfl

theorem press_digit {d : Char} (settled : c.register ≠ .awaited) (digit : d.isDigit)
    (leads : c.digits = [] → d ≠ '0') :
    c.press jump m (.char d) = { c with digits := c.digits ++ [d] }.pending := by
  have notQuote : d ≠ '"' := by
    rintro rfl
    exact absurd digit (by decide)
  have counts : d.isDigit = true ∧ ¬(d = '0' ∧ c.digits.isEmpty = true) := by
    refine ⟨digit, ?_⟩
    rintro ⟨zero, empty⟩
    exact leads (List.isEmpty_iff.mp empty) zero
  rw [press_char jump takes]
  unfold normalChar
  cases chosen : c.register with
  | awaited => exact absurd chosen settled
  | unnamed => simp only [notQuote, false_and, if_false, if_pos counts]
  | named name => simp only [notQuote, false_and, if_false, if_pos counts]

theorem press_operator (settled : c.register ≠ .awaited) (h : c.deleting = false) :
    c.press jump m (.char 'd') = { c with deleting := true }.pending := by
  rw [press_char jump takes, normalChar_command jump settled (by decide) (.inl (by decide))]
  simp [commandKey, h]

theorem press_inert {key : Key} (settled : c.register ≠ .awaited) (h : key.Inert) :
    c.press jump m key = c.pending := by
  cases key with
  | char key =>
    have notQuote : key ≠ '"' := by
      rintro rfl
      exact h.2 (by simp)
    rw [press_char jump takes, normalChar_command jump settled notQuote (.inl h.1)]
    exact commandKey_inert jump c h
  | enter => rcases takes with rfl | rfl | rfl <;> rfl
  | backspace => rcases takes with rfl | rfl | rfl <;> rfl
  | escape => cases h

end Press

/-! ## A run of keys -/

theorem feed_cons_pending {jump : Int32} {m : Mode} {c next : Chord} {key : Key}
    (h : c.press jump m key = next.pending) (rest : List Key) :
    feed jump m c (key :: rest) = feed jump m next rest := by
  rw [feed, h]
  rfl

theorem feed_append {jump : Int32} {m m' : Mode} {c c' : Chord} {first : List Key}
    {signals : List Signal} (h : feed jump m c first = (signals, m', c')) (rest : List Key) :
    feed jump m c (first ++ rest) =
      (signals ++ (feed jump m' c' rest).1, (feed jump m' c' rest).2) := by
  induction first generalizing m c signals with
  | nil =>
    cases h
    rfl
  | cons key first ih =>
    simp only [feed, Prod.mk.injEq] at h
    obtain ⟨rfl, rfl, rfl⟩ := h
    have later := ih (m := (c.press jump m key).signals.foldl Signal.modeAfter m)
      (c := (c.press jump m key).chord) rfl
    rw [List.cons_append, feed, later]
    simp only [List.append_assoc]

/-! ## An opening -/

def opened (c : Chord) (o : Opening) : Chord where
  digits := c.digits ++ o.digits
  deleting := c.deleting || o.deleting
  register := (o.register.map .named).getD c.register
  command := c.command

/-- Nothing that the chord holds changes the meaning of the keys of the opening. -/
structure Admits (c : Chord) (o : Opening) : Prop where
  numeral : ∀ d ∈ o.digits, d.isDigit
  leads : c.digits = [] → o.digits.head? ≠ some '0'
  settled : c.register ≠ .awaited
  unnamed : o.register.isSome → c.register = .unnamed
  undeleted : o.deleting → c.deleting = false

theorem Admits.idle {o : Opening} (h : o.Typable) : Chord.idle.Admits o where
  numeral := h.1
  leads _ := h.2
  settled := by decide
  unnamed _ := rfl
  undeleted _ := rfl

theorem Admits.digit {c : Chord} {d : Char} {digits : List Char} {register : Option Char}
    {deleting : Bool} (h : c.Admits ⟨d :: digits, register, deleting⟩) :
    { c with digits := c.digits ++ [d] }.Admits ⟨digits, register, deleting⟩ where
  numeral := fun d hd => h.numeral d (List.mem_cons_of_mem _ hd)
  leads := by simp
  settled := h.settled
  unnamed := h.unnamed
  undeleted := h.undeleted

theorem Admits.register {c : Chord} {name : Char} {digits : List Char} {deleting : Bool}
    (h : c.Admits ⟨digits, some name, deleting⟩) :
    { c with register := .named name }.Admits ⟨digits, none, deleting⟩ where
  numeral := h.numeral
  leads := h.leads
  settled := by simp
  unnamed := by simp
  undeleted := h.undeleted

theorem Admits.operator {c : Chord} {digits : List Char} {register : Option Char}
    (h : c.Admits ⟨digits, register, true⟩) :
    { c with deleting := true }.Admits ⟨digits, register, false⟩ where
  numeral := h.numeral
  leads := h.leads
  settled := h.settled
  unnamed := h.unnamed
  undeleted := by simp

/-- Each piece of the opening adds itself to the chord, so what is left of the opening shrinks
while the chord grows, and the two together stay the same. -/
theorem Opening.Mixes.feed (jump : Int32) {m : Mode} (takes : m.TakesChords) {o : Opening}
    {ignored keys : List Key} (mixed : o.Mixes ignored keys) {c : Chord} (admits : c.Admits o)
    (inert : ∀ key ∈ ignored, key.Inert) :
    Chord.feed jump m c keys = ([], m, c.opened o) := by
  induction mixed generalizing c with
  | nil => simp [Chord.feed, opened]
  | @digit d digits register deleting ignored keys mixed ih =>
    have leads : c.digits = [] → d ≠ '0' := by
      intro empty zero
      exact admits.leads empty (by rw [zero]; rfl)
    have digit : d.isDigit := admits.numeral d List.mem_cons_self
    rw [feed_cons_pending (press_digit jump takes admits.settled digit leads),
      ih admits.digit inert]
    simp [opened]
  | @register name digits deleting ignored keys mixed ih =>
    have unnamed : c.register = .unnamed := admits.unnamed rfl
    rw [feed_cons_pending (press_quote jump takes unnamed),
      feed_cons_pending (press_awaited jump takes c name), ih admits.register inert]
    simp [opened]
  | @operator digits register ignored keys mixed ih =>
    have undeleted : c.deleting = false := admits.undeleted rfl
    rw [feed_cons_pending (press_operator jump takes admits.settled undeleted),
      ih admits.operator inert]
    simp [opened, undeleted]
  | @inert key o ignored keys mixed ih =>
    obtain ⟨first, rest⟩ := List.forall_mem_cons.mp inert
    rw [feed_cons_pending (press_inert jump takes admits.settled first), ih admits rest]

/-! ## The key that resolves it -/

namespace Opening

def chord (o : Opening) : Chord where
  digits := o.digits
  deleting := o.deleting
  register := (o.register.map .named).getD .unnamed

theorem opened_idle (o : Opening) : idle.opened o = o.chord := by
  simp [opened, chord, idle]

theorem chord_settled (o : Opening) : o.chord.register ≠ .awaited := by
  unfold chord
  cases o.register <;> simp

theorem count_chord (o : Opening) : o.chord.count = o.count := by
  simp [chord, Chord.count, count, capped]

theorem registerName_chord (o : Opening) : o.chord.registerName = o.registerName := by
  unfold chord registerName Chord.registerName
  cases o.register <;> rfl

/-- Motions resolve every opening, alone or under the operator. -/
theorem exists_resolves_motion (jump : Int32) (o : Opening) {key : Char} {m : Motion}
    (h : Motion.ofChar? key = some m) : ∃ signal, o.Resolves jump key signal := by
  cases operator : o.deleting with
  | false => exact ⟨_, .move operator h⟩
  | true =>
    by_cases word : key = 'w'
    · rw [word]
      exact ⟨_, .deleteWord operator⟩
    · exact ⟨_, .deleteChar operator h word⟩

theorem exists_resolves (jump : Int32) {o : Opening} {key : Char} (h : o.Completes key) :
    ∃ signal, o.Resolves jump key signal := by
  rcases h with resolving | ⟨rfl, deleting⟩ | ⟨rfl, -⟩
  · simp only [List.mem_cons, List.not_mem_nil, or_false] at resolving
    rcases resolving with rfl | rfl | rfl | rfl | rfl | rfl | motion
    · exact ⟨_, .yank⟩
    · exact ⟨_, .put⟩
    · exact ⟨_, .command⟩
    · exact ⟨_, .visual⟩
    · exact ⟨_, .visualLine⟩
    · exact ⟨_, .insert⟩
    · rcases motion with rfl | rfl | rfl | rfl | rfl | rfl | rfl <;>
        exact exists_resolves_motion jump o rfl
  · exact ⟨_, .deleteLine deleting⟩
  · exact exists_resolves_motion jump o rfl

theorem Completes.normalChar {o : Opening} {key : Char} (h : o.Completes key) (jump : Int32) :
    o.chord.normalChar jump key = o.chord.commandKey jump key := by
  rcases h with resolving | ⟨rfl, -⟩ | ⟨rfl, empty⟩
  · have plain : key ≠ '"' ∧ key.isDigit = false := by
      simp only [List.mem_cons, List.not_mem_nil, or_false] at resolving
      rcases resolving with rfl | rfl | rfl | rfl | rfl | rfl | rfl | rfl | rfl | rfl | rfl |
        rfl | rfl <;> decide
    exact normalChar_command jump o.chord_settled plain.1 (.inl plain.2)
  · exact normalChar_command jump o.chord_settled (by decide) (.inl (by decide))
  · exact normalChar_command jump o.chord_settled (by decide) (.inr ⟨rfl, empty⟩)

theorem commandKey_motion (jump : Int32) (c : Chord) {key : Char} {m : Motion}
    (h : Motion.ofChar? key = some m) : c.commandKey jump key = c.motion jump m := by
  unfold Motion.ofChar? at h
  split at h <;> cases h <;> rfl

theorem scope_of_ofChar? {key : Char} {m : Motion} (h : Motion.ofChar? key = some m)
    (other : key ≠ 'w') : m.scope = .char := by
  unfold Motion.ofChar? at h
  split at h <;> cases h <;> first | rfl | exact absurd rfl other

theorem Resolves.commandKey {jump : Int32} {o : Opening} {key : Char} {signal : Signal}
    (h : o.Resolves jump key signal) :
    (o.chord.commandKey jump key).signals = [signal] ∧
      (o.chord.commandKey jump key).chord = idle := by
  have deletes : o.chord.deleting = o.deleting := rfl
  cases h with
  | yank => exact ⟨by rw [← registerName_chord]; rfl, rfl⟩
  | put => exact ⟨by rw [← registerName_chord]; rfl, rfl⟩
  | command => exact ⟨rfl, rfl⟩
  | visual => exact ⟨rfl, rfl⟩
  | visualLine => exact ⟨rfl, rfl⟩
  | insert => exact ⟨rfl, rfl⟩
  | deleteLine deleting =>
    simp [Chord.commandKey, deletes, deleting, resolve, count_chord]
  | deleteWord deleting =>
    rw [commandKey_motion jump o.chord (m := .wordForward) rfl]
    simp [Chord.motion, deletes, deleting, resolve, count_chord, Motion.scope]
  | deleteChar deleting motion other =>
    rw [commandKey_motion jump o.chord motion]
    simp [Chord.motion, deletes, deleting, resolve, count_chord, scope_of_ofChar? motion other]
  | move deleting motion =>
    rw [commandKey_motion jump o.chord motion]
    simp [Chord.motion, deletes, deleting, resolve, count_chord]

end Opening

/-- The keys of an opening tell the game nothing, in whatever order they come, and the key
that completes it tells the game one thing, whatever that order was. -/
theorem feed_mixed (jump : Int32) {o : Opening} (typable : o.Typable) :
    (∀ m ignored keys, m.TakesChords → (∀ key ∈ ignored, key.Inert) → o.Mixes ignored keys →
      feed jump m idle keys = ([], m, o.chord)) ∧
    ∀ key, o.Completes key → ∃ signal, o.Resolves jump key signal ∧
      ∀ m ignored keys, m.TakesChords → (∀ key ∈ ignored, key.Inert) → o.Mixes ignored keys →
        feed jump m idle (keys ++ [.char key]) = ([signal], signal.modeAfter m, idle) := by
  have pending : ∀ m ignored keys, m.TakesChords → (∀ key ∈ ignored, key.Inert) →
      o.Mixes ignored keys → feed jump m idle keys = ([], m, o.chord) := by
    intro m ignored keys takes inert mixed
    rw [mixed.feed jump takes (.idle typable) inert, Opening.opened_idle]
  refine ⟨pending, ?_⟩
  intro key completes
  obtain ⟨signal, resolves⟩ := Opening.exists_resolves jump completes
  refine ⟨signal, resolves, ?_⟩
  intro m ignored keys takes inert mixed
  have pressed : o.chord.press jump m (.char key) = o.chord.commandKey jump key := by
    rw [press_char jump takes, completes.normalChar jump]
  obtain ⟨signals, chord⟩ := resolves.commandKey
  rw [feed_append (pending m ignored keys takes inert mixed), feed, pressed, signals, chord]
  rfl

theorem feed_mixed_register_d :
    let o : Opening := ⟨['4', '2'], some 'd', true⟩
    let ignored : List Key := [.char 'x', .enter]
    let keys : List Key :=
      [.char '4', .char 'x', .char '"', .char 'd', .char 'd', .enter, .char '2']
    o.Typable ∧ Mode.visual.TakesChords ∧ (∀ key ∈ ignored, key.Inert) ∧ o.Mixes ignored keys ∧
      feed 5 .visual idle keys = ([], .visual, o.chord) ∧ o.Completes 'j' ∧
      ∃ signal, o.Resolves 5 'j' signal ∧
        feed 5 .visual idle (keys ++ [.char 'j']) = ([signal], signal.modeAfter .visual, idle) := by
  intro o ignored keys
  have typable : o.Typable := by
    refine ⟨?_, by simp [o]⟩
    intro d hd
    simp only [o, List.mem_cons, List.not_mem_nil, or_false] at hd
    rcases hd with rfl | rfl <;> rfl
  have takes : Mode.visual.TakesChords := .inr (.inl rfl)
  have inert : ∀ key ∈ ignored, key.Inert := by simp [ignored, Key.Inert]
  have mixed : o.Mixes ignored keys :=
    .digit '4' (.inert (.char 'x') (.register 'd' (.operator (.inert .enter (.digit '2' .nil)))))
  have completes : o.Completes 'j' := .inl (by decide)
  obtain ⟨pending, resolved⟩ := feed_mixed 5 typable
  obtain ⟨signal, resolves, told⟩ := resolved 'j' completes
  exact ⟨typable, takes, inert, mixed, pending _ _ _ takes inert mixed, completes, signal,
    resolves, told _ _ _ takes inert mixed⟩

end Chord
end GridRunner
