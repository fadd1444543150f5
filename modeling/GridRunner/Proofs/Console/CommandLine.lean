import GridRunner.Proofs.Console.Exploration
import GridRunner.Proofs.Console.Strokes
import GridRunner.Proofs.Substitution
import GridRunner.Proofs.World.Purges

/-! # The command line

The text of the command line is a stack of characters, whatever they mean elsewhere: a character is
put on top, and backspace takes the top away (`press_edit`).  The game hears nothing of it before
enter, and then one purge with the text that is left.  So only what is left counts, not how it was
typed (`type_command_line`).
-/

namespace GridRunner

namespace Key

def Edits : Key → Prop
  | .char _ | .backspace => True
  | .enter | .escape => False

instance : DecidablePred Edits
  | .char _ | .backspace => inferInstanceAs (Decidable True)
  | .enter | .escape => inferInstanceAs (Decidable False)

def stack (s : List Char) : Key → List Char
  | .char c => c :: s
  | .backspace => s.tail
  | .enter | .escape => s

/-- The text that a run of keys leaves on an empty stack, from the bottom to the top. -/
def textOf (keys : List Key) : List Char := (keys.foldl stack []).reverse

end Key

/-! ## One key -/

namespace Chord

def line (text : List Char) : Chord := { command := text }

/-- The command line is opened with nothing on it. -/
theorem Reacts.opens {m : Mode} {c : Chord} {r : Response} (reacts : Reacts m c r)
    (elsewhere : m ≠ .command) (opened : r.modeAfter m = .command) : r = enterMode .command := by
  cases reacts with
  | grow => exact absurd opened elsewhere
  | edit _ here => exact absurd here elsewhere
  | submit here => exact absurd here elsewhere
  | resolve => exact absurd opened elsewhere
  | switch next =>
    have same : next = .command := opened
    rw [same]

theorem press_edit (jump : Int32) (s : List Char) {key : Key} (edits : key.Edits) :
    (line s.reverse).press jump .command key =
      ⟨line (Key.stack s key).reverse, [], .ofList (':' :: (Key.stack s key).reverse)⟩ := by
  cases key with
  | char c => simp [press, commandLine, edited, commandEcho, line, Key.stack]
  | backspace => simp [press, commandLine, edited, commandEcho, line, Key.stack]
  | enter => cases edits
  | escape => cases edits

end Chord

/-! ## The first boss -/

/-- A substitution hits the first boss, wherever it stands among the hostiles. -/
theorem World.purge_first_boss (rules : Rules) {w : World} {command : String}
    {front back : List Entity} {boss : Entity} (wellFormed : Substitution.isCommand command = true)
    (hostiles : w.hostiles = front ++ boss :: back) (first : boss.kind = .boss)
    (others : ∀ e ∈ front, e.kind ≠ .boss) :
    ∃ log, (w.purge rules command).2 =
      { w with
        hostiles := front ++ if (boss.hurt rules.purgeDamage).alive
          then boss.hurt rules.purgeDamage :: back else back
        log } := by
  have isBoss : boss.isBoss = true := decide_eq_true first
  have passed : ∀ e ∈ front, e.isBoss = false := fun e member => decide_eq_false (others e member)
  have present : ¬ ∀ e ∈ w.hostiles, e.isBoss = false := by
    intro nobody
    have missing := nobody boss (by simp [hostiles])
    rw [isBoss] at missing
    cases missing
  obtain ⟨struck, hit, -⟩ := exists_hitFirst_of_purge rules wellFormed present
  obtain ⟨left, log, -, after⟩ := w.purge_eq rules command
  rw [hostiles, hitFirst_append passed isBoss] at hit
  obtain ⟨-, same⟩ := Prod.mk.inj (Option.some.inj hit)
  refine ⟨log, ?_⟩
  rw [same, after]

/-! ## Runs of edits -/

namespace Console

open Key (textOf)
open Substitution (IsField)

/-- A key puts a text on the command line and does nothing else. -/
structure Edited (c : Console) (key : Key) (text : List Char) : Prop where
  chord : (c.press key).2.chord = .line text
  echo : (c.press key).1 = .ofList (':' :: text)
  mode : (c.press key).2.game.world.mode = .command
  silent : (c.response key).signals = []
  game : (c.press key).2.game = c.game

section Edits

variable {c : Console}

theorem press_opening {opener : Key} (elsewhere : c.game.world.mode ≠ .command)
    (opened : (c.press opener).2.game.world.mode = .command) :
    (c.press opener).2 = ⟨c.game.setMode .command, .line []⟩ := by
  have reacts := Chord.press_reacts c.game.rules.wordJump c.chord c.game.world.mode opener
  rw [press_game, Game.foldl_follow_mode] at opened
  have entered : c.response opener = Chord.enterMode .command := reacts.opens elsewhere opened
  rw [press_eq, entered]
  rfl

theorem response_edit (here : c.game.world.mode = .command) {s : List Char}
    (text : c.chord = .line s.reverse) {key : Key} (edits : key.Edits) :
    c.response key =
      ⟨.line (Key.stack s key).reverse, [], .ofList (':' :: (Key.stack s key).reverse)⟩ := by
  rw [response, here, text]
  exact Chord.press_edit c.game.rules.wordJump s edits

/-- Edits leave what their stack holds, and the game as it was. -/
theorem type_edits (here : c.game.world.mode = .command) {s : List Char}
    (text : c.chord = .line s.reverse) {edits : List Key} (editing : ∀ key ∈ edits, key.Edits) :
    (c.type edits).2 = { c with chord := .line (edits.foldl Key.stack s).reverse } := by
  induction edits generalizing c s with
  | nil =>
    rw [List.foldl_nil, ← text]
    rfl
  | cons key rest ih =>
    obtain ⟨first, later⟩ := List.forall_mem_cons.mp editing
    have pressed : (c.press key).2 = { c with chord := .line (Key.stack s key).reverse } := by
      rw [press_eq, response_edit here text first]
      rfl
    have further := ih (c := { c with chord := .line (Key.stack s key).reverse }) here rfl later
    rw [type_cons, pressed]
    exact further

theorem edited_of_edits (here : c.game.world.mode = .command) {s : List Char}
    (text : c.chord = .line s.reverse) {key : Key} (edits : key.Edits) :
    c.Edited key (Key.stack s key).reverse := by
  have response := response_edit here text edits
  have pressed := c.press_eq key
  rw [response] at pressed
  constructor
  case chord => rw [pressed]
  case echo => rw [pressed]
  case mode =>
    rw [pressed]
    exact here
  case silent => rw [response]
  case game =>
    rw [pressed]
    rfl

/-- A substitution entered on the command line hits the first boss, and costs one keystroke. -/
theorem press_enter_first_boss {key : Key} {command : String}
    (entered : c.response key =
      ⟨.idle, [.action (.purge command), .mode .normal], ""⟩)
    (wellFormed : Substitution.isCommand command = true) {front back : List Entity} {boss : Entity}
    (hostiles : c.game.world.hostiles = front ++ boss :: back) (first : boss.kind = .boss)
    (others : ∀ e ∈ front, e.kind ≠ .boss) :
    ∃ log, (c.press key).2 =
      ⟨{ c.game with
        world := { c.game.world with
          hostiles := front ++ if (boss.hurt c.game.rules.purgeDamage).alive
            then boss.hurt c.game.rules.purgeDamage :: back else back
          log
          mode := .normal
          keystrokes := capped (c.game.world.keystrokes + 1) } }, .idle⟩ := by
  let counted : World := { c.game.world with keystrokes := capped (c.game.world.keystrokes + 1) }
  obtain ⟨log, purged⟩ :=
    World.purge_first_boss c.game.rules (w := counted) wellFormed hostiles first others
  refine ⟨log, ?_⟩
  have told : (c.press key).2 =
      ⟨{ c.game with world := { (counted.purge c.game.rules command).2 with mode := .normal } },
        .idle⟩ := by
    rw [press_eq, entered]
    rfl
  rw [told, purged]

end Edits

/-- From the key that opens the command line, edits of it show the text of their stack and do
nothing else, whatever the characters mean elsewhere.  Enter hands that text on as one purge and
then leaves the command line, and escape only leaves it.  A substitution that is entered hits the
first boss. -/
theorem type_command_line (c : Console) (opener : Key) (elsewhere : c.game.world.mode ≠ .command)
    (opened : (c.press opener).2.game.world.mode = .command) (edits : List Key)
    (editing : ∀ key ∈ edits, key.Edits) :
    let start := (c.press opener).2
    let typed := (start.type edits).2
    (∀ front key back, edits = front ++ key :: back →
      Edited (start.type front).2 key (textOf (front ++ [key]))) ∧
    typed.response .enter =
      ⟨.idle, [.action (.purge (.ofList (textOf edits))), .mode .normal], ""⟩ ∧
    typed.response .escape = ⟨.idle, [.mode .normal], ""⟩ ∧
    ∀ target replacement, IsField target → IsField replacement →
      .ofList (textOf edits) = "s/" ++ target ++ "/" ++ replacement ++ "/g" →
      ∀ front boss back, start.game.world.hostiles = front ++ boss :: back → boss.kind = .boss →
        (∀ e ∈ front, e.kind ≠ .boss) →
        let struck := boss.hurt start.game.rules.purgeDamage
        ∃ log, (typed.press .enter).2 =
          ⟨{ start.game with
            world := { start.game.world with
              hostiles := front ++ if struck.alive then struck :: back else back
              log
              mode := .normal
              keystrokes := capped (start.game.world.keystrokes + 1) } }, .idle⟩ := by
  intro start typed
  have line : start = ⟨c.game.setMode .command, .line []⟩ := press_opening elsewhere opened
  have here : start.game.world.mode = .command := by rw [line]; rfl
  have empty : start.chord = .line ([] : List Char).reverse := by rw [line]; rfl
  have typed_eq : typed = { start with chord := .line (textOf edits) } :=
    type_edits here empty editing
  have entered : typed.response .enter =
      ⟨.idle, [.action (.purge (.ofList (textOf edits))), .mode .normal], ""⟩ := by
    rw [typed_eq, response, here]
    rfl
  refine ⟨?_, entered, ?_, ?_⟩
  · rintro front key back rfl
    obtain ⟨before, later⟩ := List.forall_mem_append.mp editing
    have typed := type_edits here empty before
    have edited := edited_of_edits (c := (start.type front).2) (s := front.foldl Key.stack [])
      (by rw [typed]; exact here) (by rw [typed]) (later key List.mem_cons_self)
    rw [textOf, List.foldl_append]
    exact edited
  · rw [typed_eq, response, here]
    rfl
  · intro target replacement targetField replacementField spelled front boss back hostiles first
      others
    have wellFormed : Substitution.isCommand (.ofList (textOf edits)) = true := by
      rw [Substitution.isCommand, Option.isSome_iff_exists]
      exact ⟨⟨target, replacement⟩, Substitution.ofCommand?_eq_some_iff.mpr
        ⟨⟨targetField, replacementField⟩, spelled.symm⟩⟩
    have game : typed.game = start.game := by rw [typed_eq]
    have hit :=
      press_enter_first_boss (c := typed) entered wellFormed (game ▸ hostiles) first others
    rw [game] at hit
    exact hit

/-- A backspace too many, and a target that is typed again; the first of two bosses is hit. -/
theorem type_command_line_mistyped :
    let level : Level :=
      { number := 1, name := "Bosses", instructions := "", map := .ofRows ["@.GBB>"] }
    let c := (start {}).run [.load level]
    let opener : Key := .char ':'
    let edits : List Key :=
      .backspace :: "s/3d".toList.map .char ++ [.backspace, .backspace] ++ "a/b/g".toList.map .char
    let typed := ((c.press opener).2.type edits).2
    c.game.world.mode ≠ .command ∧ (c.press opener).2.game.world.mode = .command ∧
      (∀ key ∈ edits, key.Edits) ∧ textOf edits = "s/a/b/g".toList ∧
      IsField "a" ∧ IsField "b" ∧
      (typed.press .enter).2.game.world.hostiles =
        [.enemy ⟨2, 0⟩ 5, { Entity.boss ⟨3, 0⟩ 10 with hp := 5 }, .boss ⟨4, 0⟩ 10] ∧
      (typed.press .enter).2.game.world.keystrokes = 1 := by
  intro level c opener edits typed
  have elsewhere : c.game.world.mode ≠ .command := by decide +kernel
  have opened : (c.press opener).2.game.world.mode = .command := by decide +kernel
  have editing : ∀ key ∈ edits, key.Edits := by decide
  have target : IsField "a" := by decide
  have replacement : IsField "b" := by decide
  obtain ⟨-, -, -, hits⟩ := type_command_line c opener elsewhere opened edits editing
  obtain ⟨log, entered⟩ := hits "a" "b" target replacement (by decide +kernel)
    [.enemy ⟨2, 0⟩ 5] (.boss ⟨3, 0⟩ 10) [.boss ⟨4, 0⟩ 10] (by decide +kernel) rfl (by decide)
  have damage : (c.press opener).2.game.rules.purgeDamage = 5 := by decide +kernel
  have uncounted : (c.press opener).2.game.world.keystrokes = 0 := by decide +kernel
  rw [damage, uncounted] at entered
  refine ⟨elsewhere, opened, editing, by decide, target, replacement, ?_, ?_⟩
  · rw [entered]
    rfl
  · rw [entered]
    rfl

end Console
end GridRunner
