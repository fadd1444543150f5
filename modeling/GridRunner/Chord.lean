import GridRunner.Keyboard
import GridRunner.Action

/-!
# Chords

Keys gather into a chord: a register name, a count and an operator, in any
order, until a key resolves it into an action or a change of mode.  On the command
line the keys edit a text instead.  Escape drops everything and returns to normal
mode.
-/

namespace GridRunner

inductive RegisterChoice where
  | unnamed
  /-- The quote was typed; the next key is the name. -/
  | awaited
  | named (register : Char)
  deriving DecidableEq, Repr

/-- The keys typed toward the next command. -/
structure Chord where
  /-- Digits of the count, as typed. -/
  digits : List Char := []
  /-- A delete operator waits for its motion. -/
  deleting : Bool := false
  register : RegisterChoice := .unnamed
  /-- The text of the command line. -/
  command : List Char := []
  deriving DecidableEq, Repr

/-- What a chord tells the game. -/
inductive Signal where
  | mode (mode : Mode)
  | action (action : Action)
  deriving DecidableEq, Repr

namespace Chord

def operator? (key : Char) : Option Char := if key = 'd' then some 'd' else none

@[simp] theorem operator?_delete : operator? 'd' = some 'd' := rfl

theorem operator?_of_ne {key : Char} (other : key ≠ 'd') : operator? key = none := if_neg other

def idle : Chord := {}

/-- The count of a chord: one if none was typed. -/
def count (c : Chord) : Nat :=
  if c.digits.isEmpty then 1 else capped (Nat.ofDigitChars 10 c.digits 0)

def registerName (c : Chord) : Char :=
  match c.register with
  | .named register => register
  | _ => Registers.unnamed

/-- What the command bar shows of a chord in every mode but the command line. -/
def echo (c : Chord) : String :=
  let register :=
    match c.register with
    | .unnamed => []
    | .awaited => ['"']
    | .named register => ['"', register]
  .ofList (register ++ c.digits ++ if c.deleting then ['d'] else [])

def commandEcho (c : Chord) : String := .ofList (':' :: c.command)

/-- What a key does: the chord after it, what it tells the game, and what the command bar
shows. -/
structure Response where
  chord : Chord
  signals : List Signal
  echo : String
  deriving DecidableEq, Repr

/-- The key only adds to the chord, or is ignored. -/
def pending (c : Chord) : Response := ⟨c, [], c.echo⟩

def resolve (action : Action) : Response := ⟨idle, [.action action], ""⟩

def enterMode (mode : Mode) : Response :=
  ⟨idle, [.mode mode], if mode = .command then commandEcho idle else ""⟩

def motion (jump : Int32) (c : Chord) (m : Motion) : Response :=
  if c.deleting then resolve (.delete m.scope c.count)
  else resolve (.move (m.walk c.count jump))

/-- A key of normal or visual mode when no register name is awaited. -/
def commandKey (jump : Int32) (c : Chord) (key : Char) : Response :=
  match key with
  | 'y' => resolve (.yank c.registerName)
  | 'p' => resolve (.put c.registerName)
  | ':' => enterMode .command
  | 'v' => enterMode .visual
  | 'V' => enterMode .visualLine
  | 'i' => enterMode .insert
  | key =>
      match operator? key with
      | some _ =>
          if c.deleting then resolve (.delete .line c.count)
          else { c with deleting := true }.pending
      | none =>
          match Motion.ofChar? key with
          | some m => c.motion jump m
          | none => c.pending

def normalChar (jump : Int32) (c : Chord) (key : Char) : Response :=
  match c.register with
  | .awaited => { c with register := .named key }.pending
  | choice =>
      if key = '"' ∧ choice = .unnamed then { c with register := .awaited }.pending
      else if key.isDigit ∧ ¬(key = '0' ∧ c.digits.isEmpty) then
        { c with digits := c.digits ++ [key] }.pending
      else c.commandKey jump key

def edited (c : Chord) (command : List Char) : Response :=
  let c := { c with command }
  ⟨c, [], c.commandEcho⟩

def commandLine (c : Chord) : Key → Response
  | .enter => ⟨idle, [.action (.purge (.ofList c.command)), .mode .normal], ""⟩
  | .backspace => c.edited c.command.dropLast
  | .char key => c.edited (c.command ++ [key])
  | .escape => c.edited c.command

def press (jump : Int32) (mode : Mode) (c : Chord) (key : Key) : Response :=
  if key = .escape then enterMode .normal
  else
    match mode with
    | .command => c.commandLine key
    | .insert => c.pending
    | .normal | .visual | .visualLine =>
        match key with
        | .char key => c.normalChar jump key
        | _ => c.pending

end Chord
end GridRunner
