import GridRunner.Position
import GridRunner.Rules

/-!
# Actions, motions and outcomes

An action is a resolved command.  A blocked move, an empty register and a
malformed substitution are outcomes like any other, told through the message
log; no action fails.
-/

namespace GridRunner

/-- A walk of `repeats` equal steps.  `count` is the count the player typed. -/
structure Move where
  dx : Int
  dy : Int
  count : Nat
  repeats : Nat
  deriving DecidableEq, Repr

namespace Move

def counted (dx dy : Int) (count : Nat) : Move := ⟨dx, dy, count, count⟩

def sweep (dx : Int) : Move := ⟨dx, 0, 1, Rules.maxExtent⟩

end Move

/-- The text a delete operator covers; strikes of every scope are alike. -/
inductive Scope where
  | line
  | word
  | char
  deriving DecidableEq, Repr

inductive Action where
  | move (move : Move)
  /-- Takes the key in reach into a register. -/
  | yank (register : Char)
  /-- Tries the letter of a register on the locks in reach. -/
  | put (register : Char)
  /-- A substitution typed on the command line, aimed at the first boss. -/
  | purge (command : String)
  /-- Strikes at the hostiles in reach. -/
  | delete (scope : Scope) (count : Nat)
  deriving DecidableEq, Repr

/-! ## Motions

A motion key is a walk in some direction.  Word motions jump several columns, line motions sweep
along the row and take no count.
-/

inductive Motion where
  | left
  | down
  | up
  | right
  | wordForward
  | wordBackward
  | lineStart
  | lineEnd
  deriving DecidableEq, Repr

namespace Motion

def ofChar? : Char → Option Motion
  | 'h' => some left
  | 'j' => some down
  | 'k' => some up
  | 'l' => some right
  | 'w' => some wordForward
  | 'b' => some wordBackward
  | '0' => some lineStart
  | '$' => some lineEnd
  | _ => none

def walk (count : Nat) (jump : Int32) : Motion → Move
  | left => .counted (-1) 0 count
  | down => .counted 0 1 count
  | up => .counted 0 (-1) count
  | right => .counted 1 0 count
  | wordForward => .counted jump.toInt 0 count
  | wordBackward => .counted (-jump).toInt 0 count
  | lineStart => .sweep (-1)
  | lineEnd => .sweep 1

def scope : Motion → Scope
  | wordForward => .word
  | _ => .char

end Motion

/-! ## Outcomes -/

/-- Why a walk ended before its last step. -/
inductive Stop where
  /-- The next cell is the exit, and the level is complete. -/
  | exit
  /-- An obstacle of that name stands on the next cell. -/
  | blocked (name : String)
  | wall
  /-- The grid ends here. -/
  | edge
  deriving DecidableEq, Repr

structure Walked where
  steps : Nat
  stop : Option Stop
  deriving DecidableEq, Repr

inductive Yanked where
  | stored (letter : Char)
  | nothingInRange
  deriving DecidableEq, Repr

inductive Put where
  | emptyRegister
  | unlocked (letter : Char)
  /-- Every lock in reach refused; the letter of the last one is reported. -/
  | mismatch (held required : Char)
  | nothingInRange
  deriving DecidableEq, Repr

inductive Purged where
  | invalidSyntax
  | noTarget
  | damaged (remainingHp : Int32)
  | purged
  deriving DecidableEq, Repr

structure Struck where
  strikes : Nat
  erased : Nat
  deriving DecidableEq, Repr

inductive Outcome where
  | moved (outcome : Walked)
  | yanked (outcome : Yanked)
  | put (outcome : Put)
  | purged (outcome : Purged)
  | struck (outcome : Struck)
  deriving DecidableEq, Repr

end GridRunner
