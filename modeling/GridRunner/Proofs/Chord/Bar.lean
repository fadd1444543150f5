import GridRunner.Proofs.Chord.Modes

/-! # The command bar

The command bar shows a chord without saying where its parts end.  A chord that still awaits the
name of its register can therefore look like one whose register is named by the next character of
the bar (`Mistaken`), and like no other (`eq_or_mistaken`).  What is shown tells what any further
keys will do, but for that (`bar_tells_iff`).
-/

namespace GridRunner.Chord

/-- What a run of keys tells the game and shows in the command bar, key by key. -/
def transcript (jump : Int32) (m : Mode) (c : Chord) : List Key → List (List Signal × String)
  | [] => []
  | key :: rest =>
      let response := c.press jump m key
      (response.signals, response.echo) ::
        transcript jump (response.modeAfter m) response.chord rest

def bar (jump : Int32) (keys : List Key) : String :=
  ((transcript jump .normal idle keys).getLast?.map Prod.snd).getD ""

/-- What further keys tell and show behind a run of keys. -/
def onward (jump : Int32) (keys later : List Key) : List (List Signal × String) :=
  (transcript jump .normal idle (keys ++ later)).drop keys.length

def shown (m : Mode) (c : Chord) : String :=
  if m = .command then c.commandEcho else c.echo

/-! ## Transcripts of runs -/

theorem length_transcript (jump : Int32) (m : Mode) (c : Chord) (keys : List Key) :
    (transcript jump m c keys).length = keys.length := by
  induction keys generalizing m c with
  | nil => rfl
  | cons key rest ih => rw [transcript, List.length_cons, ih, List.length_cons]

theorem transcript_append (jump : Int32) (m : Mode) (c : Chord) (keys later : List Key) :
    transcript jump m c (keys ++ later) =
      transcript jump m c keys ++
        transcript jump (feed jump m c keys).2.1 (feed jump m c keys).2.2 later := by
  induction keys generalizing m c with
  | nil => rfl
  | cons key rest ih =>
    rw [List.cons_append, transcript, ih, transcript, List.cons_append]
    rfl

/-- Further keys meet the mode and the chord that the earlier ones left. -/
theorem onward_eq (jump : Int32) (keys later : List Key) :
    onward jump keys later = transcript jump (reached jump keys).1 (reached jump keys).2 later := by
  rw [onward, transcript_append, List.drop_left' (length_transcript ..)]
  rfl

theorem bar_eq (jump : Int32) (keys : List Key) :
    bar jump keys = shown (reached jump keys).1 (reached jump keys).2 := by
  rcases keys.eq_nil_or_concat with rfl | ⟨before, key, rfl⟩
  · rfl
  · have last : bar jump (before ++ [key]) = (reply jump before key).echo := by
      rw [bar, transcript_append, transcript, transcript, List.getLast?_concat]
      rfl
    have next : reached jump (before ++ [key]) =
        ((reply jump before key).modeAfter (reached jump before).1,
          (reply jump before key).chord) := by
      rw [reached, feed_concat]
    rw [List.concat_eq_append, last, next]
    exact (reply_reacts jump before key).echo

/-! ## Chords that look alike -/

def operatorText (deleting : Bool) : List Char := if deleting then ['d'] else []

/-- An operator is no digit, so it is seen where a count ends. -/
theorem digits_append_inj {digits digits' : List Char} {deleting deleting' : Bool}
    (numeral : ∀ d ∈ digits, d.isDigit) (numeral' : ∀ d ∈ digits', d.isDigit)
    (same : digits ++ operatorText deleting = digits' ++ operatorText deleting') :
    digits = digits' ∧ deleting = deleting' := by
  have none (b : Bool) : (operatorText b).takeWhile Char.isDigit = [] := by cases b <;> rfl
  have counts := congrArg (List.takeWhile Char.isDigit) same
  rw [List.takeWhile_append_of_pos numeral, List.takeWhile_append_of_pos numeral', none, none,
    List.append_nil, List.append_nil] at counts
  subst counts
  have operators := List.append_cancel_left same
  cases deleting <;> cases deleting' <;> simp_all [operatorText]

/-- The first chord still awaits the name of its register, and the second has for that name what
comes first of the rest. -/
inductive Mistaken (c : Chord) : Chord → Prop
  | digit {d : Char} {rest : List Char} : c.register = .awaited → c.digits = d :: rest →
      Mistaken c { c with register := .named d, digits := rest }
  | operator : c.register = .awaited → c.digits = [] → c.deleting = true →
      Mistaken c { c with register := .named 'd', deleting := false }

theorem Mistaken.armed {c c' : Chord} (mistaken : c.Mistaken c') :
    c.armed = true ∧ c'.armed = false := by
  cases mistaken with
  | digit awaited held => exact ⟨decide_eq_true awaited, rfl⟩
  | operator awaited empty deleting => exact ⟨decide_eq_true awaited, rfl⟩

def registerText : RegisterChoice → List Char
  | .unnamed => []
  | .awaited => ['"']
  | .named name => ['"', name]

theorem toList_echo (c : Chord) :
    c.echo.toList = registerText c.register ++ (c.digits ++ operatorText c.deleting) := by
  rw [echo, String.toList_ofList, List.append_assoc]
  cases c.register <;> rfl

theorem quote_not_mem {digits : List Char} (numeral : ∀ d ∈ digits, d.isDigit) (deleting : Bool) :
    '"' ∉ digits ++ operatorText deleting := by
  intro member
  rcases List.mem_append.mp member with counted | operator
  · exact absurd (numeral _ counted) (by decide)
  · cases deleting <;> simp [operatorText] at operator

/-- What is shown behind an awaited name, read as a name and what is shown behind that. -/
theorem mistaken_of_tail {c c' : Chord} {name : Char} (awaited : c.register = .awaited)
    (named : c'.register = .named name) (texts : c.command = c'.command)
    (numeral : ∀ d ∈ c.digits, d.isDigit) (numeral' : ∀ d ∈ c'.digits, d.isDigit)
    (same : c.digits ++ operatorText c.deleting =
      name :: (c'.digits ++ operatorText c'.deleting)) : c.Mistaken c' := by
  obtain ⟨digits, deleting, register, command⟩ := c
  obtain ⟨digits', deleting', register', command'⟩ := c'
  dsimp only at awaited named texts numeral numeral' same
  subst awaited named texts
  cases digits with
  | nil =>
    cases deleting with
    | false => cases same
    | true =>
      obtain ⟨rfl, rest⟩ := List.cons.inj same
      obtain ⟨rfl, none⟩ := List.append_eq_nil_iff.mp rest.symm
      cases deleting' with
      | false => exact .operator rfl rfl rfl
      | true => cases none
  | cons d digits =>
    obtain ⟨rfl, rest⟩ := List.cons.inj same
    have later := (List.forall_mem_cons.mp numeral).2
    obtain ⟨rfl, rfl⟩ := digits_append_inj later numeral' rest
    exact .digit rfl rfl

/-- Chords without a text that are shown alike are the same, but for a name of the register that is
awaited in the one and given in the other. -/
theorem eq_or_mistaken_of_echo {c c' : Chord} (texts : c.command = c'.command)
    (numeral : ∀ d ∈ c.digits, d.isDigit) (numeral' : ∀ d ∈ c'.digits, d.isDigit)
    (same : c.echo = c'.echo) : c = c' ∨ c.Mistaken c' ∨ c'.Mistaken c := by
  have parts := congrArg String.toList same
  rw [toList_echo, toList_echo] at parts
  have quoted := quote_not_mem numeral c.deleting
  have quoted' := quote_not_mem numeral' c'.deleting
  have equal (registers : c.register = c'.register) : c = c' := by
    rw [registers] at parts
    obtain ⟨digits, deleting⟩ :=
      digits_append_inj numeral numeral' (List.append_cancel_left parts)
    obtain ⟨digits₀, deleting₀, register₀, command₀⟩ := c
    cases texts
    cases registers
    cases digits
    cases deleting
    rfl
  cases register : c.register with
  | unnamed =>
    cases register' : c'.register with
    | unnamed => exact .inl (equal (register.trans register'.symm))
    | awaited | named name =>
      simp only [register, register', registerText, List.nil_append, List.cons_append] at parts
      exact absurd (parts ▸ List.mem_cons_self) quoted
  | awaited =>
    cases register' : c'.register with
    | unnamed =>
      simp only [register, register', registerText, List.nil_append, List.cons_append] at parts
      exact absurd (parts ▸ List.mem_cons_self) quoted'
    | awaited => exact .inl (equal (register.trans register'.symm))
    | named name =>
      simp only [register, register', registerText, List.nil_append, List.cons_append,
        List.cons.injEq, true_and] at parts
      exact .inr (.inl (mistaken_of_tail register register' texts numeral numeral' parts))
  | named name =>
    cases register' : c'.register with
    | unnamed =>
      simp only [register, register', registerText, List.nil_append, List.cons_append] at parts
      exact absurd (parts ▸ List.mem_cons_self) quoted'
    | awaited =>
      simp only [register, register', registerText, List.nil_append, List.cons_append,
        List.cons.injEq, true_and] at parts
      exact .inr (.inr (mistaken_of_tail register' register texts.symm numeral' numeral parts.symm))
    | named name' =>
      simp only [register, register', registerText, List.nil_append, List.cons_append,
        List.cons.injEq, true_and] at parts
      exact .inl (equal (by rw [register, register', parts.1]))

/-! ## What the command bar tells -/

variable {m : Mode} {c c' : Chord}

/-- On the command line and in insert mode nothing is pending beside the text. -/
theorem Settled.eq_of_no_opening (h : Settled m c) (closed : m = .command ∨ m = .insert) :
    c = { command := c.command } := by
  obtain ⟨digits, deleting, named, armed⟩ := h.no_opening closed
  obtain ⟨digits₀, deleting₀, register, command⟩ := c
  dsimp only at digits deleting ⊢
  subst digits deleting
  cases register with
  | unnamed => rfl
  | awaited => cases armed
  | named name => cases named

theorem eq_or_mistaken (h : Settled m c) (h' : Settled m c') (same : shown m c = shown m c') :
    c = c' ∨ c.Mistaken c' ∨ c'.Mistaken c := by
  by_cases command : m = .command
  · rw [shown, shown, if_pos command, if_pos command] at same
    have texts : c.command = c'.command := (List.cons.inj (String.ofList_injective same)).2
    rw [h.eq_of_no_opening (.inl command), h'.eq_of_no_opening (.inl command), texts]
    exact .inl rfl
  · rw [shown, shown, if_neg command, if_neg command] at same
    have texts : c.command = c'.command := (h.no_text command).trans (h'.no_text command).symm
    exact eq_or_mistaken_of_echo texts h.numeral.1 h'.numeral.1 same

theorem Settled.takesChords_of_armed (h : Settled m c) (armed : c.armed = true) :
    m.TakesChords := by
  have held (closed : m = .command ∨ m = .insert) : False := by
    rw [(h.no_opening closed).2.2.2] at armed
    cases armed
  cases m with
  | normal => exact .inl rfl
  | visual => exact .inr (.inl rfl)
  | visualLine => exact .inr (.inr rfl)
  | command => exact (held (.inl rfl)).elim
  | insert => exact (held (.inr rfl)).elim

section Put

variable (jump : Int32)

/-- An awaited name is taken from any key that is a character. -/
theorem signals_put_of_armed (takes : m.TakesChords) (armed : c.armed = true) :
    (c.press jump m (.char 'p')).signals = [] := by
  have awaited : c.register = .awaited := of_decide_eq_true armed
  rw [press_char jump takes, normalChar, awaited]
  rfl

theorem signals_put_of_not_armed (takes : m.TakesChords) (armed : c.armed = false) :
    (c.press jump m (.char 'p')).signals = [.action (.put c.registerName)] := by
  have settled : c.register ≠ .awaited := of_decide_eq_false armed
  rw [press_char jump takes, normalChar_command jump settled (by decide) (.inl (by decide))]
  rfl

/-- A put parts a chord that awaits a name from one that does not. -/
theorem transcript_put_ne (takes : m.TakesChords) (armed : c.armed = true)
    (other : c'.armed = false) :
    transcript jump m c [.char 'p'] ≠ transcript jump m c' [.char 'p'] := by
  intro same
  have told := congrArg Prod.fst (List.cons.inj same).1
  dsimp only at told
  rw [signals_put_of_armed jump takes armed, signals_put_of_not_armed jump takes other] at told
  cases told

/-- Settled chords that are shown alike do the same with all further keys exactly if both or neither
of them await the name of a register. -/
theorem transcript_eq_iff_armed (h : Settled m c) (h' : Settled m c')
    (same : shown m c = shown m c') :
    (∀ later, transcript jump m c later = transcript jump m c' later) ↔ c.armed = c'.armed := by
  constructor
  · intro alike
    cases armed : c.armed with
    | true =>
      cases armed' : c'.armed with
      | true => rfl
      | false =>
        have takes := h.takesChords_of_armed armed
        exact absurd (alike [.char 'p']) (transcript_put_ne jump takes armed armed')
    | false =>
      cases armed' : c'.armed with
      | true =>
        have takes := h'.takesChords_of_armed armed'
        exact absurd (alike [.char 'p']).symm (transcript_put_ne jump takes armed' armed)
      | false => rfl
  · intro armed later
    rcases eq_or_mistaken h h' same with equal | mistaken | mistaken
    · rw [equal]
    · rw [mistaken.armed.1, mistaken.armed.2] at armed
      cases armed
    · rw [mistaken.armed.1, mistaken.armed.2] at armed
      cases armed

end Put

/-- Two runs of keys that end in one mode with one text in the command bar are told on alike by
every further run exactly if both or neither of them await the name of a register.  If one does
alone, the other is named by what the bar of the first shows behind the quote. -/
theorem bar_tells_iff (jump : Int32) {keys keys' : List Key}
    (modes : (reached jump keys).1 = (reached jump keys').1)
    (bars : bar jump keys = bar jump keys') :
    ((∀ later, onward jump keys later = onward jump keys' later) ↔
      (reached jump keys).2.armed = (reached jump keys').2.armed) ∧
    ((reached jump keys).2 = (reached jump keys').2 ∨
      (reached jump keys).2.Mistaken (reached jump keys').2 ∨
      (reached jump keys').2.Mistaken (reached jump keys).2) := by
  have settled : Settled (reached jump keys).1 (reached jump keys).2 :=
    feed_settled jump (settled_idle .normal) keys
  have settled' : Settled (reached jump keys').1 (reached jump keys').2 :=
    feed_settled jump (settled_idle .normal) keys'
  rw [bar_eq, bar_eq, modes] at bars
  rw [modes] at settled
  simp only [onward_eq, modes]
  exact ⟨transcript_eq_iff_armed jump settled settled' bars, eq_or_mistaken settled settled' bars⟩

/-- A delete whose register is named first or last, and a count with a quote on either side. -/
theorem bar_tells_iff_delete_and_count :
    let first : List Key := [.char '"', .char 'a', .char '2', .char 'd']
    let last : List Key := [.char '2', .char 'd', .char '"', .char 'a']
    let counted : List Key := [.char '3', .char '"']
    let named : List Key := [.char '"', .char '3']
    ((reached 3 first).1 = (reached 3 last).1 ∧ bar 3 first = bar 3 last ∧
      ∀ later, onward 3 first later = onward 3 last later) ∧
    ((reached 3 counted).1 = (reached 3 named).1 ∧ bar 3 counted = bar 3 named ∧
      ¬ ∀ later, onward 3 counted later = onward 3 named later) := by
  intro first last counted named
  have modes : (reached 3 first).1 = (reached 3 last).1 := by decide
  have bars : bar 3 first = bar 3 last := by decide
  have modes' : (reached 3 counted).1 = (reached 3 named).1 := by decide
  have bars' : bar 3 counted = bar 3 named := by decide
  refine ⟨⟨modes, bars, (bar_tells_iff 3 modes bars).1.mpr (by decide)⟩, modes', bars', ?_⟩
  intro alike
  have armed := (bar_tells_iff 3 modes' bars').1.mp alike
  exact absurd armed (by decide)

/-- The same mode and the same bar, and a put is taken for a name in one case and carried out in
the other. -/
theorem put_parts_equal_bars :
    let counted : List Key := [.char '3', .char '"']
    let named : List Key := [.char '"', .char '3']
    (reached 3 counted).1 = (reached 3 named).1 ∧
      bar 3 counted = "\"3" ∧ bar 3 named = "\"3" ∧
      onward 3 counted [.char 'p'] = [([], "\"p3")] ∧
      onward 3 named [.char 'p'] = [([.action (.put '3')], "")] := by
  decide

end GridRunner.Chord
