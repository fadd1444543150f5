import GridRunner.Proofs.Client.InStep

/-! # Which keys take a scene away

A key that goes down under a scene never reaches the session.  It takes the scene away exactly if
the game knows it; an arrow, or any key with control, leaves the scene where it is
(`overlay_press_iff`).
-/

namespace GridRunner

def KeyEvent.Plain (e : KeyEvent) : Prop := e.control = false ∧ ∀ name, e.code ≠ .named name

theorem KeyEvent.exists_command_eq_forward_iff {remap : Table Char Char} {e : KeyEvent} :
    (∃ key, e.command remap = .forward key) ↔ e.Plain := by
  unfold command Plain
  cases e.control with
  | true =>
    simp only [if_true]
    split <;> simp
  | false => cases e.code <;> simp

theorem Event.isSome_key?_iff {remap : Table Char Char} {e : KeyEvent} (down : e.stroke = .press) :
    ((Event.key e).key? remap).isSome = true ↔ e.Plain := by
  rw [← KeyEvent.exists_command_eq_forward_iff, key?, down]
  cases e.command remap <;> simp

namespace Client

variable {σ : Type} [ScoreStore σ]

/-- Under a scene, a key that goes down takes the scene away if the game knows it, and does nothing
otherwise. -/
theorem takes_under_overlay {s s' : Stage σ} {t : Turn} {flow : Flow} (takes : Takes s t flow s')
    {overlay : Overlay} (shown : s.overlay = some overlay) {handled : Nat} {event : KeyEvent}
    (met : t.event = some (handled, .key event)) (down : event.stroke = .press)
    (calm : ¬ (Event.key event).Quits) (lasts : s.Lasts t.now) :
    s'.session = s.session ∧ (s'.overlay = none ↔ event.Plain) ∧
      (event.Plain → flow = if overlay.closesAt.isSome then .closed else .running) ∧
      (¬ event.Plain → flow = .running ∧ s'.overlay = some overlay) := by
  have plain : (t.typed? s.remap).isSome = true ↔ event.Plain := by
    rw [Turn.typed?_of_event met, Option.isSome_map, Event.isSome_key?_iff down]
  rw [← plain]
  rw [← Turn.quits_iff met] at calm
  cases takes with
  | expired timed late => exact absurd (lasts _ timed) (Nat.not_lt.mpr late)
  | quit _ quits => exact absurd quits calm
  | idle _ _ untyped => simp [untyped, shown]
  | dismissed _ _ shown' typed =>
    rw [shown, Option.some.injEq] at shown'
    subst shown'
    simp [typed]
  | played _ bare => simp [bare] at shown
  | failed _ bare => simp [bare] at shown

/-- In every state that a client comes to, a key pressed under a scene, other than control with c or
q, is kept from the session; it takes the scene away if and only if the game knows it, which ends
the program after the last level; any other key changes neither scene nor session. -/
theorem overlay_press_iff {rules : Rules} {levels : List Level} {scores : σ} {index : Nat}
    {s : Session σ} (opened : Session.startingAt rules levels scores index = .ok s)
    {keys : List Key} (playing : (s.play keys).2.finished = false) (preferences : Preferences)
    (size : Screen.Size) (turns : List Turn) {c : Client σ}
    (reached : (start (s.play keys).2 preferences size).loop turns = (.running, c, []))
    {overlay : Overlay} (shown : c.display.overlay = some overlay) {now : Nat}
    (waits : c.display.finaleOver now = false) (handled : Nat) {event : KeyEvent}
    (down : event.stroke = .press) (calm : ¬ (Event.key event).Quits) :
    let next := c.tick { now, event := some (handled, .key event) }
    next.2.session = c.session ∧ (next.2.display.overlay = none ↔ event.Plain) ∧
      (event.Plain → next.1 = if c.session.finished then .closed else .running) ∧
      (¬ event.Plain → next.1 = .running ∧ next.2.display.overlay = some overlay) := by
  intro next
  have course : (s.play keys).2.OnCourse := (Session.onCourse_startingAt opened).1.play keys
  obtain ⟨-, -, paired⟩ := (paired_start playing preferences size).loop course turns
  rw [reached] at paired
  have finished : c.session.finished = overlay.closesAt.isSome := by
    have timed := (paired rfl).finished_eq
    rwa [Stage.deadline?, show c.stage.overlay = some overlay from shown] at timed
  rw [finished]
  exact takes_under_overlay (takes_tick c _) shown rfl down calm (lasts_of_not_over waits)

/-- Under the finale an arrow does nothing, and Enter ends the program. -/
theorem overlay_press_iff_finale :
    let level : Level :=
      { number := 2, name := "Corridor", instructions := "", map := .ofRows ["@..>"], par := 1 }
    let turns : List Turn := [{ now := 7, event := some (8, .key { code := .char '$' }) }]
    let arrow : KeyEvent := { code := .named "Left", shift := true }
    let enter : KeyEvent := { code := .enter, alt := true }
    let finale : Overlay := ⟨.finale, some 5008⟩
    ∃ (s : Session ScoreBook) (c : Client ScoreBook),
      Session.startingAt {} [level] Table.empty 0 = .ok s ∧ s.finished = false ∧
      (start s {} ⟨80, 24⟩).loop turns = (.running, c, []) ∧ c.display.overlay = some finale ∧
      let missed := c.tick { now := 5007, event := some (5009, .key arrow) }
      let taken := c.tick { now := 5007, event := some (5009, .key enter) }
      (missed.2.session = c.session ∧ missed.1 = .running ∧
        missed.2.display.overlay = some finale) ∧
      taken.2.session = c.session ∧ taken.1 = .closed ∧ taken.2.display.overlay = none := by
  intro level turns arrow enter finale
  have computed : ((Session.startingAt {} [level] (Table.empty : ScoreBook) 0).toOption.map fun s =>
      let c := (start s {} ⟨80, 24⟩).loop turns
      (s.finished, c.1, c.2.2, c.2.1.display.overlay, c.2.1.session.finished)) =
      some (false, .running, [], some finale, true) := by
    decide +kernel
  obtain ⟨s, opened, course⟩ := Session.exists_startingAt_of_map {} _ computed
  simp only [Prod.mk.injEq] at course
  obtain ⟨playing, running, left, shown, finished⟩ := course
  have reached : (start s {} ⟨80, 24⟩).loop turns =
      (.running, ((start s {} ⟨80, 24⟩).loop turns).2.1, []) :=
    Prod.ext running (Prod.ext rfl left)
  have waits : ((start s {} ⟨80, 24⟩).loop turns).2.1.display.finaleOver 5007 = false := by
    rw [Display.finaleOver, shown]
    rfl
  have playing' : (s.play []).2.finished = false := playing
  have press (event : KeyEvent) (down : event.stroke = .press) (calm : ¬ (Event.key event).Quits) :=
    overlay_press_iff opened playing' {} ⟨80, 24⟩ turns reached shown waits 5009 down calm
  obtain ⟨deaf, -, -, stays⟩ := press arrow rfl (by simp [Event.Quits, arrow])
  obtain ⟨heard, gone, ends, -⟩ := press enter rfl (by simp [Event.Quits, enter])
  have unknown : ¬ arrow.Plain := fun plain => plain.2 "Left" rfl
  have known : enter.Plain := ⟨rfl, by simp [enter]⟩
  rw [finished] at ends
  exact ⟨s, _, opened, playing, reached, shown, ⟨deaf, stays unknown⟩, heard, ends known,
    gone.mpr known⟩

/-- The scene before the first level stays when an arrow goes down, though that quits nothing. -/
theorem overlay_stays_under_arrow :
    let level : Level :=
      { number := 1, name := "Corridor", instructions := "", map := .ofRows ["@..>"] }
    let arrow : Event := .key { code := .named "Left" }
    ∃ s : Session ScoreBook, Session.startingAt {} [level] Table.empty 0 = .ok s ∧
      let c := start s {} ⟨80, 24⟩
      let next := c.tick { now := 1, event := some (1, arrow) }
      c.display.overlay = some { scene := .boot } ∧ ¬ arrow.Quits ∧ next.1 = .running ∧
        next.2.display.overlay = some { scene := .boot } := by
  intro level arrow
  have computed : ((Session.startingAt {} [level] (Table.empty : ScoreBook) 0).toOption.map fun s =>
      let c := start s {} ⟨80, 24⟩
      let next := c.tick { now := 1, event := some (1, arrow) }
      (c.display.overlay, next.1, next.2.display.overlay)) =
      some (some { scene := .boot }, .running, some { scene := .boot }) := by
    decide +kernel
  obtain ⟨s, opened, course⟩ := Session.exists_startingAt_of_map {} _ computed
  simp only [Prod.mk.injEq] at course
  obtain ⟨shown, running, stays⟩ := course
  exact ⟨s, opened, shown, by simp [Event.Quits, arrow], running, stays⟩

end Client
end GridRunner
