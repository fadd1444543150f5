import GridRunner.Proofs.Client.Turns

/-! # Client, scenes and session in step

A key reaches the session exactly if no scene is shown, and the scene that has a deadline is shown
exactly while the session is finished.  Each turn keeps it so (`Paired.takes`), and thus a run
(`Paired.loop`).
-/

namespace GridRunner

namespace Session

variable {σ : Type} [ScoreStore σ]

def hear (s : Session σ) (typed : List (Nat × Key)) : Session σ := (s.play (typed.map Prod.snd)).2

/-- One of the keys clears the last level, at that time. -/
def ClearedAt (s : Session σ) (typed : List (Nat × Key)) (time : Nat) : Prop :=
  ∃ before key, before ++ [(time, key)] <+: typed ∧
    (s.hear before).finished = false ∧ (s.hear (before ++ [(time, key)])).finished = true

theorem hear_concat (s : Session σ) (typed : List (Nat × Key)) (now : Nat) (key : Key) :
    s.hear (typed ++ [(now, key)]) = ((s.hear typed).press key).2 := by
  rw [hear, List.map_append, play_append]
  rfl

end Session

/-- The key that a turn brings to the session: the one typed in it, unless a scene is shown. -/
def Stage.hears {σ : Type} (s : Stage σ) (t : Turn) : Option (Nat × Key) :=
  if s.overlay.isNone then t.typed? s.remap else none

namespace Client

variable {σ : Type} [ScoreStore σ]

/-- The keys typed while no scene is shown, up to the end of the run. -/
def heard (c : Client σ) : List Turn → List (Nat × Key)
  | [] => []
  | t :: rest =>
      (c.stage.hears t).toList ++
        match c.tick t with
        | (.running, c) => c.heard rest
        | _ => []

/-- The session has had the keys of a run, in their order, and none of them too late. -/
structure Fed (first : Session σ) (heard : List (Nat × Key)) (s : Session σ) : Prop where
  session : s = first.hear heard
  playing : ∀ before key, before ++ [key] <+: heard → (first.hear before).finished = false

/-- The scene goes with the session: none that closes by itself before the end, the finale after. -/
structure Paired (first : Session σ) (heard : List (Nat × Key)) (s : Stage σ) : Prop
    extends Fed first heard s.session where
  ordinary : s.session.finished = false → s.deadline? = none
  finale : s.session.finished = true → ∃ time, first.ClearedAt heard time ∧
    s.overlay = some ⟨.finale, some (time + Display.finaleDuration)⟩

variable {first : Session σ} {typed : List (Nat × Key)}

theorem Fed.onCourse {s : Session σ} (h : Fed first typed s) (course : first.OnCourse) :
    s.OnCourse := by
  rw [h.session]
  exact course.play _

theorem Fed.press {s : Session σ} (h : Fed first typed s) (unfinished : s.finished = false)
    (now : Nat) (key : Key) : Fed first (typed ++ [(now, key)]) (s.press key).2 := by
  refine ⟨by rw [Session.hear_concat, h.session], ?_⟩
  intro before last heard
  rcases List.prefix_concat_iff.mp heard with whole | earlier
  · rw [(List.append_inj' whole rfl).1, ← h.session, unfinished]
  · exact h.playing before last earlier

/-- The key that clears the last level is the last that is heard. -/
theorem Fed.of_cleared {s : Session σ} (h : Fed first typed s) {time : Nat}
    (cleared : first.ClearedAt typed time) :
    s.finished = true ∧ typed.getLast?.map Prod.fst = some time := by
  obtain ⟨before, key, ⟨rest, parts⟩, -, finished⟩ := cleared
  cases rest with
  | nil =>
    rw [List.append_nil] at parts
    subst parts
    rw [h.session]
    exact ⟨finished, by simp⟩
  | cons next rest =>
    have heard : (before ++ [(time, key)]) ++ [next] <+: typed := ⟨rest, by simp [← parts]⟩
    rw [h.playing _ next heard] at finished
    cases finished

section Paired

variable {s : Stage σ} (h : Paired first typed s)

include h

theorem Paired.finished_eq : s.session.finished = s.deadline?.isSome := by
  cases finished : s.session.finished with
  | false => rw [h.ordinary finished, Option.isSome_none]
  | true =>
    obtain ⟨time, -, shown⟩ := h.finale finished
    rw [Stage.deadline?, shown, Option.bind_some, Option.isSome_some]

theorem Paired.press (course : first.OnCourse) (bare : s.overlay = none) (now : Nat) (key : Key)
    {r : KeyReport} (answer : (s.session.press key).1 = .ok r) :
    Paired first (typed ++ [(now, key)]) { s with
      session := (s.session.press key).2
      overlay := raised? now (s.session.press key).2.current.number r } := by
  have unfinished : s.session.finished = false := by
    rw [h.finished_eq, Stage.deadline?, bare, Option.bind_none, Option.isSome_none]
  obtain ⟨r', answer', same, completed⟩ :=
    Session.press_report (h.toFed.onCourse course) unfinished key
  rw [answer, Except.ok.injEq] at answer'
  subst answer'
  have fed := h.toFed.press unfinished now key
  refine ⟨fed, ?_, ?_⟩
  · intro playing
    exact raised?_deadline _ _ _ (same.trans playing)
  · intro finished
    have ended := same.trans finished
    refine ⟨now, ⟨typed, key, List.prefix_rfl, ?_, ?_⟩, ?_⟩
    · rw [← h.session, unfinished]
    · rw [← fed.session, finished]
    · exact raised?_of_finished _ _ ended (completed ended)

theorem Paired.deadline?_iff {deadline : Nat} :
    s.deadline? = some deadline ↔
      ∃ time, first.ClearedAt typed time ∧ deadline = time + Display.finaleDuration := by
  constructor
  · intro timed
    have finished : s.session.finished = true := by rw [h.finished_eq, timed, Option.isSome_some]
    obtain ⟨time, cleared, shown⟩ := h.finale finished
    rw [Stage.deadline?, shown, Option.bind_some, Option.some.injEq] at timed
    exact ⟨time, cleared, timed.symm⟩
  · rintro ⟨time, cleared, rfl⟩
    obtain ⟨finished, last⟩ := h.toFed.of_cleared cleared
    obtain ⟨time', cleared', shown⟩ := h.finale finished
    have same := last.symm.trans (h.toFed.of_cleared cleared').2
    rw [Stage.deadline?, shown, Option.bind_some, Option.some.inj same]

/-- Only a scene without a deadline goes away while the client goes on. -/
theorem Paired.dismiss {overlay : Overlay} (shown : s.overlay = some overlay)
    (untimed : overlay.closesAt.isSome = false) :
    Paired first typed { s with overlay := none } := by
  have unfinished : s.session.finished = false := by
    rw [h.finished_eq, Stage.deadline?, shown, Option.bind_some, untimed]
  refine ⟨h.toFed, fun _ => rfl, fun finished => ?_⟩
  rw [unfinished] at finished
  cases finished

/-- No turn is an error, and one that does not end the run keeps scene and session together. -/
theorem Paired.takes {s' : Stage σ} {t : Turn} {flow : Flow} (course : first.OnCourse)
    (takes : Takes s t flow s') :
    Fed first (typed ++ (s.hears t).toList) s'.session ∧ (∀ e, flow ≠ .failed e) ∧
      (flow = .running → Paired first (typed ++ (s.hears t).toList) s') := by
  -- Only a key that is played is heard; every other turn leaves the keys as they are.
  have deaf (silent : s.hears t = none) : typed ++ (s.hears t).toList = typed := by simp [silent]
  cases takes with
  | expired shown late =>
    have silent : s.hears t = none := by
      unfold Stage.deadline? at shown
      cases overlay : s.overlay <;> simp_all [Stage.hears]
    rw [deaf silent]
    exact ⟨h.toFed, by simp, by simp⟩
  | quit lasts quits =>
    have silent : s.hears t = none := by simp [Stage.hears, Turn.typed?_of_quits quits]
    rw [deaf silent]
    exact ⟨h.toFed, by simp, by simp⟩
  | idle lasts calm untyped =>
    have silent : s.hears t = none := by simp [Stage.hears, untyped]
    rw [deaf silent]
    exact ⟨h.toFed, by simp, fun _ => h⟩
  | @dismissed overlay now key lasts calm shown typed =>
    have silent : s.hears t = none := by simp [Stage.hears, shown]
    rw [deaf silent]
    refine ⟨h.toFed, by split <;> simp, ?_⟩
    intro running
    cases timed : overlay.closesAt.isSome with
    | false => exact h.dismiss shown timed
    | true =>
      rw [timed, if_pos rfl] at running
      cases running
  | @played now key r calm bare typed answer =>
    have heard : s.hears t = some (now, key) := by simp [Stage.hears, bare, typed]
    have pressed := h.press course bare now key answer
    rw [heard]
    exact ⟨pressed.toFed, by simp, fun _ => pressed⟩
  | @failed now key e calm bare typed answer =>
    obtain ⟨r, played⟩ := Session.press_ok (h.toFed.onCourse course) key
    rw [answer] at played
    cases played

end Paired

theorem Paired.loop (course : first.OnCourse) {c : Client σ} (h : Paired first typed c.stage)
    (turns : List Turn) :
    Fed first (typed ++ c.heard turns) (c.loop turns).2.1.session ∧
      (∀ e, (c.loop turns).1 ≠ .failed e) ∧
      ((c.loop turns).1 = .running →
        Paired first (typed ++ c.heard turns) (c.loop turns).2.1.stage) := by
  -- From the front, since the client stops there: what a turn adds joins the keys heard before it.
  induction turns generalizing c typed with
  | nil => simpa [heard, Client.loop] using ⟨h.toFed, h⟩
  | cons t rest ih =>
    obtain ⟨fed, sound, paired⟩ := h.takes course (takes_tick c t)
    unfold heard Client.loop
    generalize c.tick t = result at fed sound paired
    obtain ⟨flow, after⟩ := result
    cases flow with
    | running => simpa only [List.append_assoc] using ih (paired rfl)
    | closed =>
      rw [List.append_nil]
      exact ⟨fed, by simp, by simp⟩
    | failed e => exact absurd rfl (sound e)

theorem loop_remap (c : Client σ) (turns : List Turn) :
    (c.loop turns).2.1.remap = c.remap := by
  induction turns generalizing c with
  | nil => rfl
  | cons t rest ih =>
    have same := (takes_tick c t).remap
    unfold Client.loop
    generalize c.tick t = result at same
    obtain ⟨flow, after⟩ := result
    cases flow with
    | running => exact (ih after).trans same
    | closed => exact same
    | failed e => exact same

/-- Session, scene and keys of a client that goes on, and what its next turn can do. -/
structure InStep (first : Session σ) (heard : List (Nat × Key)) (remap : Table Char Char)
    (c : Client σ) : Prop where
  finished_iff : c.session.finished = true ↔
    ∃ scene deadline, c.display.overlay = some ⟨scene, some deadline⟩
  finale : ∀ scene deadline, c.display.overlay = some ⟨scene, some deadline⟩ →
    scene = .finale ∧ ∃ time, first.ClearedAt heard time ∧ deadline = time + 5000
  absorbs : ∀ overlay, c.display.overlay = some overlay → ∀ t : Turn,
    (c.tick t).2.session = c.session ∧
    ((t.typed? remap).isSome = true → (c.tick t).2.display.overlay = none) ∧
    (t.typed? remap = none → (c.tick t).1 = .running →
      (c.tick t).2.display.overlay = some overlay)
  closes : ∀ t : Turn, (c.tick t).1 = .closed ↔
    t.Quits ∨
    ((t.typed? remap).isSome = true ∧
      ∃ scene deadline, c.display.overlay = some ⟨scene, some deadline⟩) ∨
    ∃ time, first.ClearedAt heard time ∧ time + 5000 ≤ t.now

theorem Paired.inStep {c : Client σ} (h : Paired first typed c.stage) :
    InStep first typed c.remap c := by
  have finished : c.session.finished = c.stage.deadline?.isSome := h.finished_eq
  refine ⟨?_, ?_, ?_, ?_⟩
  · rw [finished, Option.isSome_iff_exists, exists_comm]
    exact exists_congr fun deadline => stage_deadline?_iff
  · intro scene deadline shown
    have timed : c.stage.deadline? = some deadline := stage_deadline?_iff.mpr ⟨scene, shown⟩
    rw [timed, Option.isSome_some] at finished
    obtain ⟨time, cleared, shown'⟩ := h.finale finished
    have same : c.display.overlay = _ := shown'
    rw [shown, Option.some.injEq, Overlay.mk.injEq, Option.some.injEq] at same
    exact ⟨same.1, time, cleared, same.2⟩
  · intro overlay shown t
    exact (takes_tick c t).absorbs shown
  · intro t
    rw [(takes_tick c t).closed_iff]
    refine or_congr_right ?_
    constructor
    · rintro ⟨deadline, timed, typed | late⟩
      · obtain ⟨scene, shown⟩ := stage_deadline?_iff.mp timed
        exact .inl ⟨typed, scene, deadline, shown⟩
      · obtain ⟨time, cleared, rfl⟩ := h.deadline?_iff.mp timed
        exact .inr ⟨time, cleared, late⟩
    · rintro (⟨typed, scene, deadline, shown⟩ | ⟨time, cleared, late⟩)
      · exact ⟨deadline, stage_deadline?_iff.mpr ⟨scene, shown⟩, .inl typed⟩
      · exact ⟨_, h.deadline?_iff.mpr ⟨time, cleared, rfl⟩, .inr late⟩

theorem paired_start {s : Session σ} (unfinished : s.finished = false) (preferences : Preferences)
    (size : Screen.Size) : Paired s [] (start s preferences size).stage := by
  refine ⟨⟨rfl, by simp⟩, ?_, ?_⟩
  · intro _
    unfold Stage.deadline? start stage redraw Display.enterLevel
    dsimp only
    cases Scene.before? s.current.number <;> rfl
  · intro finished
    have finished' : s.finished = true := finished
    rw [unfinished] at finished'
    cases finished'

/-- However turns come to a client over a session in play, the session has had each key that met no
scene once and in order, none of them after the end, and while the client goes on the scene that
closes by itself is shown exactly if the session is finished. -/
theorem loop_in_step {rules : Rules} {levels : List Level} {scores : σ} {index : Nat}
    {s : Session σ} (opened : Session.startingAt rules levels scores index = .ok s)
    {keys : List Key} (playing : (s.play keys).2.finished = false) (preferences : Preferences)
    (size : Screen.Size) (turns : List Turn) :
    let first := (s.play keys).2
    let c := start first preferences size
    let heard := c.heard turns
    let result := c.loop turns
    result.2.1.session = first.hear heard ∧
    (∀ before key, before ++ [key] <+: heard → (first.hear before).finished = false) ∧
    (∀ e, result.1 ≠ .failed e) ∧
    (result.1 = .running → InStep first heard preferences.remap result.2.1) := by
  intro first c heard result
  have course : first.OnCourse := (Session.onCourse_startingAt opened).1.play keys
  obtain ⟨fed, sound, paired⟩ := (paired_start playing preferences size).loop course turns
  refine ⟨fed.session, fed.playing, sound, ?_⟩
  intro running
  have remap : result.2.1.remap = preferences.remap := loop_remap c turns
  rw [← remap]
  exact (paired running).inStep

/-- A scene that takes a key, two levels cleared, and the finale left alone for its time. -/
theorem loop_in_step_finale :
    let corridor := fun number : Nat =>
      ({ number, name := "Corridor", instructions := "",
         map := .ofRows ["@..>"], par := 1 } : Level)
    let levels := [corridor 1, corridor 2]
    let preferences : Preferences := { keyMap := Table.empty.insert "x" "l" }
    let key := fun (now : Nat) (c : Char) =>
      ({ now, event := some (now, .key { code := .char c }) } : Turn)
    let turns := [key 5 '$', key 6 '$', { now := 7, event := some (7, .resize ⟨2, 2⟩) }, key 8 '3',
      { now := 9 }, key 10 'x']
    let heard := [(6, .char '$'), (8, .char '3'), (10, .char 'l')]
    ∃ s : Session ScoreBook, Session.startingAt {} levels Table.empty 0 = .ok s ∧
      let first := (s.play [.char 'l']).2
      let c := start first preferences ⟨80, 24⟩
      first.finished = false ∧ c.heard turns = heard ∧
        InStep first heard preferences.remap (c.loop turns).2.1 ∧
        ((c.loop turns).2.1.tick { now := 5009 }).1 = .running ∧
        ((c.loop turns).2.1.tick { now := 5010 }).1 = .closed := by
  intro corridor levels preferences key turns heard
  have opens : ∃ s : Session ScoreBook, Session.startingAt {} levels Table.empty 0 = .ok s :=
    (Session.exists_startingAt_iff {} Table.empty).mpr (by decide)
  obtain ⟨s, opened⟩ := opens
  have course : ((Session.startingAt {} levels (Table.empty : ScoreBook) 0).toOption.map fun s =>
      let first := (s.play [.char 'l']).2
      let c := start first preferences ⟨80, 24⟩
      (first.finished, c.heard turns, (c.loop turns).1,
        ((c.loop turns).2.1.tick { now := 5009 }).1,
        (first.hear [(6, .char '$'), (8, .char '3')]).finished, (first.hear heard).finished)) =
      some (false, heard, .running, .running, false, true) := by
    decide +kernel
  rw [opened] at course
  simp only [Except.toOption, Option.map_some, Option.some.injEq, Prod.mk.injEq] at course
  obtain ⟨playing, told, running, early, before, after⟩ := course
  obtain ⟨-, -, -, inStep⟩ := loop_in_step opened playing preferences ⟨80, 24⟩ turns
  have now := inStep running
  rw [told] at now
  have cleared : (s.play [.char 'l']).2.ClearedAt heard 10 :=
    ⟨_, _, List.prefix_rfl, before, after⟩
  refine ⟨s, opened, playing, told, now, early, ?_⟩
  exact (now.closes _).mpr (.inr (.inr ⟨10, cleared, by decide⟩))

end Client
end GridRunner
