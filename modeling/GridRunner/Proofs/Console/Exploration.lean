import GridRunner.Proofs.Chord.Grammar
import GridRunner.Proofs.Console.Placement
import GridRunner.Proofs.World.Region

/-! # Exploring by single steps

With single steps, sweeps and counts the player reaches exactly the cells that a path of free
cells joins to its own, and completes the level exactly if an exit stands beside one of them.
-/

namespace GridRunner

def Key.Roams : Key → Prop
  | .char c => c ∈ ['h', 'j', 'k', 'l', '0', '$'] ∨ c.isDigit
  | _ => False

/-- Every step of the walk is a single cell to one side. -/
def Move.ByCells (m : Move) : Prop := m.dx.natAbs + m.dy.natAbs = 1

theorem Motion.byCells_walk (count : Nat) (jump : Int32) {m : Motion} (h : m ≠ .wordForward)
    (h' : m ≠ .wordBackward) : (m.walk count jump).ByCells := by
  cases m with
  | wordForward => exact absurd rfl h
  | wordBackward => exact absurd rfl h'
  | left | down | up | right | lineStart | lineEnd => rfl

namespace Chord

def Counting (c : Chord) : Prop := c.deleting = false ∧ c.register = .unnamed

section Roaming

variable (jump : Int32) {c : Chord}

theorem Counting.press_motion (counting : c.Counting) {mode : Mode} (takes : mode.TakesChords)
    {key : Char} {m : Motion} (notQuote : key ≠ '"')
    (notDigit : key.isDigit = false ∨ (key = '0' ∧ c.digits = []))
    (h : Motion.ofChar? key = some m) :
    c.press jump mode (.char key) = resolve (.move (m.walk c.count jump)) := by
  have settled : c.register ≠ .awaited := by simp [counting.2]
  rw [press_char jump takes, normalChar_command jump settled notQuote notDigit,
    Opening.commandKey_motion jump c h, motion, counting.1]
  rfl

/-- The motions among the roaming keys. -/
theorem exists_roaming_motion {key : Char} (roams : (Key.char key).Roams)
    (zero : key.isDigit → key = '0') :
    ∃ m, Motion.ofChar? key = some m ∧ m ≠ .wordForward ∧ m ≠ .wordBackward ∧ key ≠ '"' := by
  have listed : key ∈ ['h', 'j', 'k', 'l', '0', '$'] := by
    rcases roams with listed | digit
    · exact listed
    · simp [zero digit]
  simp only [List.mem_cons, List.not_mem_nil, or_false] at listed
  rcases listed with rfl | rfl | rfl | rfl | rfl | rfl <;>
    exact ⟨_, rfl, by decide, by decide, by decide⟩

/-- A roaming key goes into the count or starts a walk by single steps. -/
theorem Counting.press_roams (counting : c.Counting) {key : Key} (roams : key.Roams) :
    (∃ digits, c.press jump .normal key = { c with digits }.pending) ∨
      ∃ m : Move, m.ByCells ∧ c.press jump .normal key = resolve (.move m) := by
  cases key with
  | enter => cases roams
  | backspace => cases roams
  | escape => cases roams
  | char key =>
    have walks (notDigit : key.isDigit = false ∨ (key = '0' ∧ c.digits = [])) :
        ∃ m : Move, m.ByCells ∧ c.press jump .normal (.char key) = resolve (.move m) := by
      have zero : key.isDigit → key = '0' := by
        intro digit
        rcases notDigit with other | ⟨same, -⟩
        · simp [digit] at other
        · exact same
      obtain ⟨m, motion, forward, backward, notQuote⟩ := exists_roaming_motion roams zero
      exact ⟨_, m.byCells_walk c.count jump forward backward,
        counting.press_motion jump (.inl rfl) notQuote notDigit motion⟩
    by_cases first : key = '0' ∧ c.digits = []
    · exact .inr (walks (.inr first))
    · cases digit : key.isDigit with
      | false => exact .inr (walks (.inl digit))
      | true =>
        have settled : c.register ≠ .awaited := by simp [counting.2]
        have leads : c.digits = [] → key ≠ '0' := fun empty zero => first ⟨zero, empty⟩
        exact .inl ⟨_, press_digit jump (.inl rfl) settled digit leads⟩

/-- To every cell beside there is a key that steps there. -/
theorem exists_step_key {p q : Position} (beside : p.Beside q) :
    ∃ key : Key, key.Roams ∧ ∃ dx dy : Int, dx.natAbs + dy.natAbs = 1 ∧ q = p.plus dx dy ∧
      idle.press jump .normal key = resolve (.move (.counted dx dy 1)) := by
  rcases beside.eq_plus with rfl | rfl | rfl | rfl
  · exact ⟨.char 'l', .inl (by decide), 1, 0, rfl, rfl, rfl⟩
  · exact ⟨.char 'h', .inl (by decide), -1, 0, rfl, rfl, rfl⟩
  · exact ⟨.char 'j', .inl (by decide), 0, 1, rfl, rfl, rfl⟩
  · exact ⟨.char 'k', .inl (by decide), 0, -1, rfl, rfl, rfl⟩

end Roaming
end Chord

namespace Console

open World (Explored SameMap)

variable {c : Console}

theorem press_of_pending {key : Key} {next : Chord}
    (h : c.chord.press c.game.rules.wordJump c.game.world.mode key = next.pending) :
    c.press key = (next.echo, { c with chord := next }) := by
  rw [press, h]
  rfl

theorem press_of_resolve {key : Key} {action : Action}
    (h : c.chord.press c.game.rules.wordJump c.game.world.mode key = Chord.resolve action) :
    c.press key = ("", ⟨(c.game.apply action).2, .idle⟩) := by
  rw [press, h]
  rfl

theorem type_cons (c : Console) (key : Key) (rest : List Key) :
    (c.type (key :: rest)).2 = ((c.press key).2.type rest).2 := rfl

theorem type_append (c : Console) (first rest : List Key) :
    (c.type (first ++ rest)).2 = ((c.type first).2.type rest).2 := by
  induction first generalizing c with
  | nil => rfl
  | cons key first ih => exact ih (c.press key).2

/-! ## Roaming keys stay in the region -/

/-- A console with a level on which roaming keys mean what they say. -/
structure Ready (c : Console) : Prop where
  placed : c.game.world.WellPlaced
  normal : c.game.world.mode = .normal
  counting : c.chord.Counting

theorem Ready.press (ready : c.Ready) {key : Key} (roams : key.Roams) :
    Explored c.game.world (c.press key).2.game.world ∧ (c.press key).2.Ready := by
  have response := ready.counting.press_roams c.game.rules.wordJump roams
  rw [← ready.normal] at response
  rcases response with ⟨digits, pending⟩ | ⟨m, byCells, resolved⟩
  · rw [press_of_pending pending]
    exact ⟨⟨.refl _, rfl, .refl, .inl⟩, ready.placed, ready.normal, ready.counting⟩
  · rw [press_of_resolve resolved]
    have counted : Explored c.game.world
        { c.game.world with keystrokes := capped (c.game.world.keystrokes + 1) } :=
      ⟨⟨rfl, rfl, rfl, rfl, rfl⟩, rfl, .refl, .inl⟩
    have explored :=
      counted.trans (World.explored_move (counted.wellPlaced ready.placed) byCells)
    exact ⟨explored, explored.wellPlaced ready.placed, explored.mode.trans ready.normal, rfl, rfl⟩

theorem Ready.type (ready : c.Ready) {keys : List Key} (roam : ∀ key ∈ keys, key.Roams) :
    Explored c.game.world (c.type keys).2.game.world ∧ (c.type keys).2.Ready := by
  induction keys generalizing c with
  | nil => exact ⟨⟨.refl _, rfl, .refl, .inl⟩, ready⟩
  | cons key rest ih =>
    obtain ⟨first, roamRest⟩ := List.forall_mem_cons.mp roam
    obtain ⟨explored, next⟩ := ready.press first
    obtain ⟨further, last⟩ := ih next roamRest
    rw [type_cons]
    exact ⟨explored.trans further, last⟩

/-! ## Every cell of the region is reached -/

theorem Ready.step (ready : c.Ready) (idle : c.chord = .idle) {p : Position}
    (beside : c.game.world.player.position.Beside p) :
    ∃ key : Key, key.Roams ∧ (c.press key).2.chord = .idle ∧
      (c.game.world.IsFree p → (c.press key).2.game.world.player.position = p) ∧
      ((∃ e ∈ c.game.world.fixtures, e.kind = .exit ∧ e.position = p) →
        (c.press key).2.game.world.complete = true) := by
  obtain ⟨key, roams, dx, dy, unit, rfl, resolved⟩ :=
    Chord.exists_step_key c.game.rules.wordJump beside
  rw [← idle, ← ready.normal] at resolved
  refine ⟨key, roams, ?_⟩
  rw [press_of_resolve resolved]
  -- The world that the walk starts from: the keystroke counted and the aura set.
  let primed : World :=
    { c.game.world with
      keystrokes := capped (c.game.world.keystrokes + 1)
      aura := decide (1 > 1) || c.game.world.efficient }
  have placed : primed.WellPlaced :=
    ready.placed.thin (SameMap.thins ⟨rfl, rfl, rfl, rfl, rfl⟩) ready.placed.player_free
  refine ⟨rfl, ?_, ?_⟩
  · intro free
    have stepped := placed.walk_of_free unit free 0 0
    exact congrArg (fun walked => walked.2.player.position) stepped
  · rintro ⟨e, member, exit, here⟩
    have stepped := placed.walk_of_meets unit (.exit (List.mem_append_right _ member) here exit) 0 0
    exact congrArg (fun walked => walked.2.complete) stepped

theorem Ready.exists_keys (ready : c.Ready) (idle : c.chord = .idle) {p : Position}
    (joined : c.game.world.Joined c.game.world.player.position p) :
    ∃ keys : List Key, (∀ key ∈ keys, key.Roams) ∧ (c.type keys).2.chord = .idle ∧
      (c.type keys).2.game.world.player.position = p := by
  induction joined with
  | refl => exact ⟨[], by simp, idle, rfl⟩
  | @tail q p path adjoins ih =>
    obtain ⟨keys, roam, left, here⟩ := ih
    obtain ⟨explored, ready'⟩ := ready.type roam
    have beside : (c.type keys).2.game.world.player.position.Beside p := here ▸ adjoins.2.2
    obtain ⟨key, roams, idle', steps, -⟩ := ready'.step left beside
    have free : (c.type keys).2.game.world.IsFree p := explored.map.isFree_eq ▸ adjoins.2.1
    refine ⟨keys ++ [key], ?_, ?_, ?_⟩
    · exact List.forall_mem_append.mpr ⟨roam, by simpa using roams⟩
    · rw [type_append]
      exact idle'
    · rw [type_append]
      exact steps free

theorem Ready.exists_keys_to_exit (ready : c.Ready) (idle : c.chord = .idle) {p : Position}
    (joined : c.game.world.Joined c.game.world.player.position p)
    (exit : c.game.world.ExitBeside p) :
    ∃ keys : List Key, (∀ key ∈ keys, key.Roams) ∧
      (c.type keys).2.game.world.complete = true := by
  obtain ⟨keys, roam, left, here⟩ := ready.exists_keys idle joined
  obtain ⟨explored, ready'⟩ := ready.type roam
  obtain ⟨e, member, kind, beside⟩ := exit
  rw [← here] at beside
  rw [← explored.map.fixtures] at member
  obtain ⟨key, roams, -, -, completes⟩ := ready'.step left beside
  refine ⟨keys ++ [key], List.forall_mem_append.mpr ⟨roam, by simpa using roams⟩, ?_⟩
  rw [type_append]
  exact completes ⟨e, member, kind, rfl⟩

/-- In a level in play, single steps, sweeps and counts lead the player exactly to the cells that
a path of free cells joins to its own, and to the end of the level exactly if an exit stands
beside one of them. -/
theorem roam_iff_joined (rules : Rules) (operations : List Operation) (level : Level)
    (loaded : (Console.start rules).lastLoad? operations = some level) (c : Console)
    (reached : c.game = ((Console.start rules).run operations).game) (idle : c.chord = .idle)
    (normal : c.game.world.mode = .normal) :
    (∀ p, (∃ keys : List Key, (∀ key ∈ keys, key.Roams) ∧
        (c.type keys).2.game.world.player.position = p) ↔
      c.game.world.Joined c.game.world.player.position p) ∧
    (c.game.world.complete = false →
      ((∃ keys : List Key, (∀ key ∈ keys, key.Roams) ∧
          (c.type keys).2.game.world.complete = true) ↔
        ∃ p, c.game.world.Joined c.game.world.player.position p ∧
          c.game.world.ExitBeside p)) := by
  have onMap := onMap_run loaded
  rw [← reached] at onMap
  have counting : c.chord.Counting := by
    rw [idle]
    exact ⟨rfl, rfl⟩
  have ready : c.Ready := ⟨onMap.wellPlaced, normal, counting⟩
  refine ⟨?_, ?_⟩
  · intro p
    constructor
    · rintro ⟨keys, roam, rfl⟩
      exact (ready.type roam).1.joined
    · intro joined
      obtain ⟨keys, roam, -, here⟩ := ready.exists_keys idle joined
      exact ⟨keys, roam, here⟩
  · intro incomplete
    constructor
    · rintro ⟨keys, roam, complete⟩
      rcases (ready.type roam).1.exit complete with earlier | found
      · rw [incomplete] at earlier
        cases earlier
      · exact found
    · rintro ⟨p, joined, exit⟩
      exact ready.exists_keys_to_exit idle joined exit

/-- Behind a lock that a word motion jumped over. -/
theorem roam_iff_joined_past_lock :
    let level : Level :=
      { number := 1, name := "Gap", instructions := "", map := .ofRows ["@..A.>"] }
    let operations : List Operation := [.load level, .keys [.char 'l', .char 'w']]
    let c := (Console.start {}).run operations
    (Console.start {}).lastLoad? operations = some level ∧ c.chord = .idle ∧
      c.game.world.mode = .normal ∧ c.game.world.player.position = ⟨4, 0⟩ ∧
      c.game.world.complete = false ∧
      ∃ keys : List Key, (∀ key ∈ keys, key.Roams) ∧
        (c.type keys).2.game.world.complete = true := by
  intro level operations c
  have loaded : (Console.start {}).lastLoad? operations = some level := by decide +kernel
  have idle : c.chord = .idle := by decide +kernel
  have normal : c.game.world.mode = .normal := by decide +kernel
  have here : c.game.world.player.position = ⟨4, 0⟩ := by decide +kernel
  have incomplete : c.game.world.complete = false := by decide +kernel
  have exit : ∃ e ∈ c.game.world.fixtures, e.kind = .exit ∧ e.position = ⟨5, 0⟩ := by
    decide +kernel
  refine ⟨loaded, idle, normal, here, incomplete, ?_⟩
  have roam := roam_iff_joined {} operations level loaded c rfl idle normal
  refine (roam.2 incomplete).mpr ⟨c.game.world.player.position, .refl, ?_⟩
  obtain ⟨e, member, kind, there⟩ := exit
  exact ⟨e, member, kind, by rw [here, there]; rfl⟩

end Console
end GridRunner
