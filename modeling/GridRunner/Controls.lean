import GridRunner.Keyboard
import GridRunner.Table

/-!
# From the keyboard to the game

A key of the keyboard is turned into one the game understands, after the
player's key map.  Control with c or q ends the program; every other key with
control, and every key the game does not know, is passed over.
-/

namespace GridRunner

inductive KeyCode where
  | char (c : Char)
  | enter
  | backspace
  | escape
  /-- A key the game does not know, such as an arrow. -/
  | named (name : String)
  deriving DecidableEq, Repr

inductive KeyStroke where
  | press
  | repetition
  | release
  deriving DecidableEq, Repr

structure KeyEvent where
  code : KeyCode
  control : Bool := false
  shift : Bool := false
  alt : Bool := false
  stroke : KeyStroke := .press
  deriving DecidableEq, Repr

inductive Command where
  | quit
  | forward (key : Key)
  | ignore
  deriving DecidableEq, Repr

namespace KeyEvent

def ofTyped (c : Char) : KeyEvent :=
  match Key.ofTyped c with
  | .enter => { code := .enter }
  | .backspace => { code := .backspace }
  | .escape => { code := .escape }
  | .char c => { code := .char c }

def quit : KeyEvent := { code := .char 'q', control := true }

/-- What the event asks for, whether the key goes down or up. -/
def command (remap : Table Char Char) (e : KeyEvent) : Command :=
  if e.control then
    match e.code with
    | .char 'c' | .char 'q' => .quit
    | _ => .ignore
  else
    match e.code with
    | .char c => .forward (.char ((remap.get? c).getD c))
    | .enter => .forward .enter
    | .backspace => .forward .backspace
    | .escape => .forward .escape
    | .named _ => .ignore

end KeyEvent
end GridRunner
