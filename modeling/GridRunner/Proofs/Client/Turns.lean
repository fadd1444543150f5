import GridRunner.Client
import GridRunner.Proofs.Session.Course

/-! # What one turn of the client does

A turn looks at the session, the scene on show and the key map, and does one of six things
(`takes_tick`).  Sounds, echoes and drawings have no part in that.
-/

namespace GridRunner

/-! ## Keys -/

namespace Event

def key? (remap : Table Char Char) : Event → Option Key
  | .key event =>
      match event.stroke, event.command remap with
      | .press, .forward typed => some typed
      | _, _ => none
  | _ => none

def Quits : Event → Prop
  | .key event => event.stroke = .press ∧ event.control = true ∧
      (event.code = .char 'c' ∨ event.code = .char 'q')
  | _ => False

end Event

namespace Turn

/-- The key for the game in a turn, and when it is handled. -/
def typed? (remap : Table Char Char) (t : Turn) : Option (Nat × Key) :=
  t.event.bind fun (now, event) => (event.key? remap).map (now, ·)

def Quits (t : Turn) : Prop := ∃ now event, t.event = some (now, event) ∧ event.Quits

theorem typed?_of_event {t : Turn} {now : Nat} {event : Event} (h : t.event = some (now, event))
    (remap : Table Char Char) : t.typed? remap = (event.key? remap).map (now, ·) := by
  rw [typed?, h, Option.bind_some]

theorem quits_iff {t : Turn} {now : Nat} {event : Event} (h : t.event = some (now, event)) :
    t.Quits ↔ event.Quits := by
  simp [Quits, h]

end Turn

theorem KeyEvent.command_eq_quit_iff {remap : Table Char Char} {e : KeyEvent} :
    e.command remap = .quit ↔ e.control = true ∧ (e.code = .char 'c' ∨ e.code = .char 'q') := by
  unfold command
  cases e.control with
  | true =>
    simp only [if_true, true_and]
    split <;> simp_all
  | false =>
    simp only [Bool.false_eq_true, if_false, false_and, iff_false]
    split <;> simp

theorem Turn.typed?_of_quits {t : Turn} (h : t.Quits) (remap : Table Char Char) :
    t.typed? remap = none := by
  obtain ⟨now, event, met, quits⟩ := h
  rw [typed?_of_event met]
  cases event with
  | key event =>
    have command : event.command remap = .quit := KeyEvent.command_eq_quit_iff.mpr quits.2
    simp [Event.key?, command]
  | resize size => cases quits
  | other => cases quits

/-! ## The stage -/

/-- What of a client decides about its turns. -/
structure Stage (σ : Type) where
  session : Session σ
  overlay : Option Overlay
  remap : Table Char Char

def Stage.deadline? {σ : Type} (s : Stage σ) : Option Nat := s.overlay.bind (·.closesAt)

def Stage.Lasts {σ : Type} (s : Stage σ) (now : Nat) : Prop :=
  ∀ deadline, s.deadline? = some deadline → now < deadline

theorem Display.finaleOver_iff (d : Display) (now : Nat) :
    d.finaleOver now = true ↔
      ∃ deadline, d.overlay.bind (·.closesAt) = some deadline ∧ deadline ≤ now := by
  unfold finaleOver
  cases d.overlay with
  | none => simp
  | some overlay =>
    obtain ⟨scene, closesAt⟩ := overlay
    cases closesAt <;> simp

namespace Client

variable {σ : Type}

def stage (c : Client σ) : Stage σ := ⟨c.session, c.display.overlay, c.remap⟩

theorem stage_deadline?_iff {c : Client σ} {deadline : Nat} :
    c.stage.deadline? = some deadline ↔
      ∃ scene, c.display.overlay = some ⟨scene, some deadline⟩ := by
  unfold Stage.deadline? stage
  cases c.display.overlay with
  | none => simp
  | some overlay =>
    obtain ⟨scene, closesAt⟩ := overlay
    simp

theorem lasts_of_not_over {c : Client σ} {now : Nat} (waits : c.display.finaleOver now = false) :
    c.stage.Lasts now := by
  intro deadline shown
  by_contra late
  have past := (c.display.finaleOver_iff now).mpr ⟨deadline, shown, Nat.le_of_not_lt late⟩
  rw [waits] at past
  cases past

/-- The client once a sound that has had its time is gone, which is drawn. -/
def faded (now : Nat) (c : Client σ) : Client σ :=
  if c.display.sound.any (·.expired now) then
    { c with display := { c.display with sound := none } }.redraw
  else c

/-- What fades, and whether that is drawn, happens behind the stage. -/
theorem faded_stage (now : Nat) (c : Client σ) : (c.faded now).stage = c.stage := by
  unfold faded
  split <;> rfl

def raised? (now number : Nat) (r : KeyReport) : Option Overlay :=
  if r.completed.isNone then none
  else if r.finished then some ⟨.finale, some (now + Display.finaleDuration)⟩
  else (Scene.before? number).map ({ scene := · })

theorem report_overlay {d : Display} (bare : d.overlay = none) (now number : Nat) (r : KeyReport) :
    (report now number r d).overlay = raised? now number r := by
  unfold report raised?
  cases r.completed with
  | none => exact bare
  | some summary =>
    cases r.finished with
    | true => rfl
    | false =>
      simp only [Option.isNone_some, Bool.false_eq_true, if_false, Display.enterLevel]
      cases Scene.before? number with
      | none => exact bare
      | some scene => rfl

theorem raised?_deadline (now number : Nat) (r : KeyReport) (unfinished : r.finished = false) :
    (raised? now number r).bind (·.closesAt) = none := by
  unfold raised?
  cases r.completed with
  | none => rfl
  | some summary =>
    simp only [Option.isNone_some, unfinished, Bool.false_eq_true, if_false]
    cases Scene.before? number <;> rfl

theorem raised?_of_finished {r : KeyReport} (now number : Nat) (finished : r.finished = true)
    (completed : r.completed.isSome = true) :
    raised? now number r = some ⟨.finale, some (now + Display.finaleDuration)⟩ := by
  unfold raised?
  rw [if_neg (by simp [Option.isSome_iff_ne_none.mp completed]), if_pos finished]

variable [ScoreStore σ]

/-- What a turn can come to: the scene has had its time, the player quits, nothing happens, a key
takes the scene away, or a key is played. -/
inductive Takes (s : Stage σ) (t : Turn) : Flow → Stage σ → Prop
  | expired {deadline : Nat} : s.deadline? = some deadline → deadline ≤ t.now →
      Takes s t .closed { s with overlay := none }
  | quit : s.Lasts t.now → t.Quits → Takes s t .closed s
  | idle : s.Lasts t.now → ¬ t.Quits → t.typed? s.remap = none → Takes s t .running s
  | dismissed {overlay : Overlay} {now : Nat} {key : Key} : s.Lasts t.now → ¬ t.Quits →
      s.overlay = some overlay → t.typed? s.remap = some (now, key) →
      Takes s t (if overlay.closesAt.isSome then .closed else .running) { s with overlay := none }
  | played {now : Nat} {key : Key} {r : KeyReport} : ¬ t.Quits → s.overlay = none →
      t.typed? s.remap = some (now, key) → (s.session.press key).1 = .ok r →
      Takes s t .running { s with
        session := (s.session.press key).2
        overlay := raised? now (s.session.press key).2.current.number r }
  | failed {now : Nat} {key : Key} {e : SessionError} : ¬ t.Quits → s.overlay = none →
      t.typed? s.remap = some (now, key) → (s.session.press key).1 = .error e →
      Takes s t (.failed e) { s with session := (s.session.press key).2 }

theorem takes_forward {c : Client σ} {t : Turn} {now : Nat} {key : Key} (calm : ¬ t.Quits)
    (bare : c.display.overlay = none) (typed : t.typed? c.remap = some (now, key)) :
    Takes c.stage t (c.forward now key).1 (c.forward now key).2.stage := by
  have cued : (if c.sounds then c.display.cue key now else c.display).overlay = none := by
    split <;> exact bare
  cases answer : (c.session.press key).1 with
  | error e =>
    have failed := Takes.failed (s := c.stage) calm bare typed answer
    simpa [forward, answer, stage, cued, bare] using failed
  | ok r =>
    have played := Takes.played (s := c.stage) calm bare typed answer
    simpa [forward, answer, stage, report_overlay cued] using played

theorem dismiss_of_overlay {d : Display} {overlay : Overlay} (shown : d.overlay = some overlay) :
    d.dismiss =
      (if overlay.closesAt.isSome then .quit else .resume, { d with overlay := none }) := by
  obtain ⟨scene, closesAt⟩ := overlay
  unfold Display.dismiss
  rw [shown]
  cases closesAt <;> rfl

theorem takes_press {c : Client σ} {t : Turn} {now : Nat} {event : KeyEvent}
    (lasts : c.stage.Lasts t.now)
    (met : t.event = some (now, .key event)) (down : event.stroke = .press) :
    Takes c.stage t (c.press now event).1 (c.press now event).2.stage := by
  have quits : t.Quits ↔ event.command c.remap = .quit := by
    rw [Turn.quits_iff met, KeyEvent.command_eq_quit_iff]
    simp [Event.Quits, down]
  have typed := Turn.typed?_of_event met c.remap
  unfold press
  cases command : event.command c.remap with
  | quit => exact .quit lasts (quits.mpr command)
  | ignore =>
    have calm : ¬ t.Quits := by simp [quits, command]
    have untyped : t.typed? c.remap = none := by simp [typed, Event.key?, down, command]
    exact .idle lasts calm untyped
  | forward key =>
    have calm : ¬ t.Quits := by simp [quits, command]
    have typed' : t.typed? c.remap = some (now, key) := by simp [typed, Event.key?, down, command]
    cases shown : c.display.overlay with
    | none => exact takes_forward calm shown typed'
    | some overlay =>
      have dismissed := Takes.dismissed (s := c.stage) lasts calm shown typed'
      simp only [Option.isSome_some, if_true, dismiss_of_overlay shown]
      cases timed : overlay.closesAt.isSome <;> simpa [timed, stage] using dismissed

theorem takes_idle {s : Stage σ} {t : Turn} {now : Nat} {event : Event} (lasts : s.Lasts t.now)
    (met : t.event = some (now, event)) (calm : ¬ event.Quits)
    (untyped : event.key? s.remap = none) : Takes s t .running s := by
  refine .idle lasts ?_ ?_
  · rwa [Turn.quits_iff met]
  · rw [Turn.typed?_of_event met, untyped, Option.map_none]

theorem takes_handle {c : Client σ} {t : Turn} {now : Nat} {event : Event}
    (lasts : c.stage.Lasts t.now) (met : t.event = some (now, event)) :
    Takes c.stage t (c.handle now event).1 (c.handle now event).2.stage := by
  have idle := takes_idle lasts met
  cases event with
  | key event =>
    cases stroke : event.stroke with
    | press =>
      have pressed := takes_press lasts met stroke
      simp only [handle, stroke]
      generalize c.press now event = result at pressed
      obtain ⟨flow, after⟩ := result
      cases flow <;> exact pressed
    | repetition =>
      simp only [handle, stroke]
      exact idle (by simp [Event.Quits, stroke]) (by simp [Event.key?, stroke])
    | release =>
      simp only [handle, stroke]
      exact idle (by simp [Event.Quits, stroke]) (by simp [Event.key?, stroke])
  | resize size => exact idle (by simp [Event.Quits]) rfl
  | other => exact idle (by simp [Event.Quits]) rfl

theorem tick_of_over {c : Client σ} {t : Turn} (past : c.display.finaleOver t.now = true) :
    (c.tick t).1 = .closed ∧ (c.tick t).2.stage = { c.stage with overlay := none } := by
  simp [tick, Display.tick, past, stage]

theorem tick_of_not_over {c : Client σ} {t : Turn} (waits : c.display.finaleOver t.now = false) :
    c.tick t =
      match t.event with
      | some (now, event) => (c.faded t.now).handle now event
      | none => (.running, c.faded t.now) := by
  unfold tick Display.tick Display.fade faded
  simp only [waits, Bool.false_eq_true, if_false]
  cases c.display.sound.any (·.expired t.now) <;> rfl

theorem takes_tick (c : Client σ) (t : Turn) :
    Takes c.stage t (c.tick t).1 (c.tick t).2.stage := by
  cases ended : c.display.finaleOver t.now with
  | true =>
    obtain ⟨deadline, shown, late⟩ := (c.display.finaleOver_iff t.now).mp ended
    obtain ⟨closed, cleared⟩ := tick_of_over ended
    rw [closed, cleared]
    exact .expired shown late
  | false =>
    have lasts := lasts_of_not_over ended
    rw [tick_of_not_over ended]
    rw [← c.faded_stage t.now] at lasts ⊢
    cases met : t.event with
    | none =>
      have calm : ¬ t.Quits := by simp [Turn.Quits, met]
      have untyped : t.typed? (c.faded t.now).remap = none := by simp [Turn.typed?, met]
      exact .idle lasts calm untyped
    | some event => exact takes_handle lasts met

variable {s s' : Stage σ} {t : Turn} {flow : Flow}

theorem Takes.remap (takes : Takes s t flow s') : s'.remap = s.remap := by
  cases takes <;> rfl

/-- A scene lets nothing through to the session, and goes with the first key. -/
theorem Takes.absorbs (takes : Takes s t flow s') {overlay : Overlay}
    (shown : s.overlay = some overlay) :
    s'.session = s.session ∧ ((t.typed? s.remap).isSome = true → s'.overlay = none) ∧
      (t.typed? s.remap = none → flow = .running → s'.overlay = some overlay) := by
  cases takes with
  | expired timed late => exact ⟨rfl, fun _ => rfl, fun _ running => by cases running⟩
  | quit lasts quits => simp [Turn.typed?_of_quits quits, shown]
  | idle lasts calm untyped => simp [untyped, shown]
  | dismissed lasts calm shown' typed => simp [typed]
  | played calm bare => simp [bare] at shown
  | failed calm bare => simp [bare] at shown

theorem Takes.closed_iff (takes : Takes s t flow s') :
    flow = .closed ↔ t.Quits ∨ ∃ deadline, s.deadline? = some deadline ∧
      ((t.typed? s.remap).isSome = true ∨ deadline ≤ t.now) := by
  cases takes with
  | @expired deadline timed late =>
    exact ⟨fun _ => .inr ⟨deadline, timed, .inr late⟩, fun _ => rfl⟩
  | quit lasts quits => simp [quits]
  | idle lasts calm untyped => simpa [calm, untyped, Stage.Lasts] using lasts
  | @dismissed overlay now key lasts calm shown typed =>
    have deadline : s.deadline? = overlay.closesAt := by
      rw [Stage.deadline?, shown, Option.bind_some]
    cases timed : overlay.closesAt <;> simp [calm, deadline, timed, typed]
  | played calm bare => simp [calm, Stage.deadline?, bare]
  | failed calm bare => simp [calm, Stage.deadline?, bare]

end Client
end GridRunner
