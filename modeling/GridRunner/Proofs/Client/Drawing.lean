import GridRunner.Proofs.Client.Turns

/-! # The screen is never stale

A turn draws whenever it changes something that is seen: a sound that has had its time, a key that
goes down, a new size.  So as long as the client goes on, its last drawing is of the game and the
display as they are, at the size that the terminal told last (`drawn_loop`).
-/

namespace GridRunner

def Event.resized? : Event → Option Screen.Size
  | .resize size => some size
  | _ => none

def Turn.resized? (t : Turn) : Option Screen.Size := t.event.bind (·.2.resized?)

def Screen.Size.after (size : Screen.Size) (turns : List Turn) : Screen.Size :=
  turns.foldl (fun size t => t.resized?.getD size) size

namespace Client

variable {σ : Type}

/-- The last drawing is of the game and the display as they are. -/
def Current (c : Client σ) : Prop := c.drawn = c.picture

/-- A client whose screen is current, with the palette and the size that are to be expected. -/
structure Shows (theme : Theme) (size : Screen.Size) (c : Client σ) : Prop where
  current : c.Current
  theme : c.theme = theme
  size : c.size = size

theorem Shows.faded {theme : Theme} {size : Screen.Size} {c : Client σ} (shows : Shows theme size c)
    (now : Nat) : Shows theme size (c.faded now) := by
  unfold Client.faded
  split
  · exact ⟨rfl, shows.theme, shows.size⟩
  · exact shows

variable [ScoreStore σ]

theorem forward_frame (now : Nat) (key : Key) (c : Client σ) :
    (c.forward now key).2.theme = c.theme ∧ (c.forward now key).2.size = c.size := by
  unfold forward
  dsimp only
  split
  · exact ⟨rfl, rfl⟩
  · exact ⟨rfl, rfl⟩

theorem press_frame (now : Nat) (event : KeyEvent) (c : Client σ) :
    (c.press now event).2.theme = c.theme ∧ (c.press now event).2.size = c.size := by
  unfold press
  split
  · exact ⟨rfl, rfl⟩
  · exact ⟨rfl, rfl⟩
  · split
    · split
      · exact ⟨rfl, rfl⟩
      · exact ⟨rfl, rfl⟩
    · exact forward_frame now _ c

section Shows

variable {theme : Theme} {size : Screen.Size} {c : Client σ} (shows : Shows theme size c)

include shows

theorem Shows.handle {now : Nat} {event : Event} (running : (c.handle now event).1 = .running) :
    Shows theme (event.resized?.getD size) (c.handle now event).2 := by
  cases event with
  | resize extent => exact ⟨rfl, shows.theme, rfl⟩
  | other => exact shows
  | key event =>
    cases stroke : event.stroke with
    | repetition => simpa [Client.handle, stroke, Event.resized?] using shows
    | release => simpa [Client.handle, stroke, Event.resized?] using shows
    | press =>
      obtain ⟨palette, extent⟩ := press_frame now event c
      simp only [Client.handle, stroke] at running ⊢
      generalize c.press now event = result at palette extent running
      obtain ⟨flow, after⟩ := result
      cases flow with
      | running => exact ⟨rfl, palette.trans shows.theme, extent.trans shows.size⟩
      | closed => cases running
      | failed e => cases running

theorem Shows.tick {t : Turn} (running : (c.tick t).1 = .running) :
    Shows theme (t.resized?.getD size) (c.tick t).2 := by
  cases past : c.display.finaleOver t.now with
  | true =>
    rw [(tick_of_over past).1] at running
    cases running
  | false =>
    -- What has faded is drawn before the event is met.
    have faded := shows.faded t.now
    rw [tick_of_not_over past] at running ⊢
    unfold Turn.resized?
    cases met : t.event with
    | none => exact faded
    | some event =>
      rw [met] at running
      exact faded.handle running

theorem Shows.loop {turns : List Turn} (running : (c.loop turns).1 = .running) :
    Shows theme (size.after turns) (c.loop turns).2.1 := by
  induction turns generalizing c size with
  | nil => exact shows
  | cons t rest ih =>
    have step := shows.tick (t := t)
    unfold Client.loop at running ⊢
    generalize c.tick t = result at step running
    obtain ⟨flow, after⟩ := result
    cases flow with
    | running => exact ih (step rfl) running
    | closed => cases running
    | failed e => cases running

end Shows

/-- However long a client goes on, and whatever the terminal tells it, the screen shows the game
and the display that it then has, in its palette and at the size told last. -/
theorem drawn_loop (session : Session σ) (preferences : Preferences) (size : Screen.Size)
    (turns : List Turn) (running : ((start session preferences size).loop turns).1 = .running) :
    let c := ((start session preferences size).loop turns).2.1
    c.drawn = Screen.draw (size.after turns) c.session.game c.display
      (.ofName preferences.theme) := by
  intro c
  have first : Shows (.ofName preferences.theme) size (start session preferences size) :=
    ⟨rfl, rfl, rfl⟩
  have last : Shows (.ofName preferences.theme) (size.after turns) c := first.loop running
  have drawn : c.drawn = c.picture := last.current
  rw [drawn, picture, last.size, last.theme]

/-- A scene dismissed on a new screen, a level cleared, and its sound gone with no key pressed. -/
theorem drawn_loop_faded :
    let corridor := fun number : Nat =>
      ({ number, name := "Corridor", instructions := "",
         map := .ofRows ["@..>"], par := 1 } : Level)
    let dollar : KeyEvent := { code := .char '$' }
    let turns : List Turn :=
      [{ now := 5, event := some (5, .resize ⟨40, 12⟩) },
       { now := 6, event := some (6, .key dollar) },
        { now := 7, event := some (8, .key dollar) },
        { now := 308, event := some (309, .key { dollar with stroke := .release }) }]
    ∃ s : Session ScoreBook,
      Session.startingAt {} [corridor 1, corridor 2] Table.empty 0 = .ok s ∧
      let c := (start s {} ⟨80, 24⟩).loop turns
      c.1 = .running ∧ c.2.1.session.index = 1 ∧ c.2.1.display.sound = none ∧
        c.2.1.drawn = Screen.draw ⟨40, 12⟩ c.2.1.session.game c.2.1.display
          (.ofName "tokyonight") := by
  intro corridor dollar turns
  have computed : ((Session.startingAt {} [corridor 1, corridor 2]
      (Table.empty : ScoreBook) 0).toOption.map fun s =>
        let c := (start s {} ⟨80, 24⟩).loop turns
        (c.1, c.2.1.session.index, c.2.1.display.sound)) = some (.running, 1, none) := by
    decide +kernel
  obtain ⟨s, opened, course⟩ := Session.exists_startingAt_of_map {} _ computed
  simp only [Prod.mk.injEq] at course
  obtain ⟨running, index, silent⟩ := course
  exact ⟨s, opened, running, index, silent, drawn_loop s {} ⟨80, 24⟩ turns running⟩

end Client
end GridRunner
