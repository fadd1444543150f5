import GridRunner.Letter.Case
import GridRunner.Position

/-!
# What stands on the grid

The player, hostiles, and the fixtures of a level: keys, locks, rubble and
exits.  An entity floats over a floor cell and is drawn by its symbol.
-/

namespace GridRunner

namespace Entity

inductive Kind where
  | player
  | enemy
  | boss
  | rubble
  | exit
  /-- A key to pick up; a register then holds its letter. -/
  | key (letter : Char)
  /-- A barrier that a register holding the letter opens. -/
  | lock (letter : Char)
  deriving DecidableEq, Repr, Inhabited

namespace Kind

/-- Whether an entity of this kind keeps the player out of its cell. -/
def isObstacle : Kind → Bool
  | enemy | boss | rubble | lock _ => true
  | player | exit | key _ => false

def isHostile : Kind → Bool
  | enemy | boss => true
  | _ => false

def name : Kind → String
  | player => "player"
  | enemy => "enemy"
  | boss => "boss"
  | rubble => "rubble"
  | exit => "exit"
  | key _ => "key"
  | lock _ => "lock"

def letter? : Kind → Option Char
  | key letter | lock letter => some letter
  | _ => none

theorem isObstacle_of_isHostile {kind : Kind} (h : kind.isHostile = true) :
    kind.isObstacle = true := by
  cases kind <;> simp_all [isHostile, isObstacle]

end Kind
end Entity

structure Entity where
  name : String
  symbol : Char
  position : Position
  hp : Int32
  maxHp : Int32
  kind : Entity.Kind
  deriving DecidableEq, Repr, Inhabited

namespace Entity

def fresh (name : String) (symbol : Char) (position : Position) (hp : Int32) (kind : Kind) :
    Entity :=
  ⟨name, symbol, position, hp, hp, kind⟩

def player (position : Position) (hp : Int32) : Entity :=
  fresh "Player" '@' position hp .player

def enemy (position : Position) (hp : Int32) : Entity :=
  fresh "Minion" 'G' position hp .enemy

def boss (position : Position) (hp : Int32) : Entity :=
  fresh "Corrupted Binary" 'B' position hp .boss

def rubble (position : Position) : Entity := fresh "Rubble" 'R' position 1 .rubble

def exit (position : Position) : Entity := fresh "Exit" '>' position 1 .exit

def key (position : Position) (letter : Char) : Entity :=
  fresh ("Key " ++ letter.toString) letter position 1 (.key letter)

/-- A lock shows an uppercase glyph and opens to its lowercase letter. -/
def lock (position : Position) (glyph : Char) : Entity :=
  fresh ("Lock " ++ glyph.toString) glyph position 1 (.lock (Letter.lower glyph))

def alive (e : Entity) : Bool := e.hp > 0

/-- The entity after a blow; damage below zero heals. -/
def hurt (e : Entity) (damage : Int32) : Entity := { e with hp := e.hp - damage }

/-- Strikes the first selected entity of a list: the entity as the blow leaves it, and the
list with it in its old place, or without it if it is dead. -/
def hitFirst (selected : Entity → Bool) (damage : Int32) :
    List Entity → Option (Entity × List Entity)
  | [] => none
  | e :: rest =>
      if selected e then
        let struck := e.hurt damage
        some (struck, if struck.alive then struck :: rest else rest)
      else
        (hitFirst selected damage rest).map fun (struck, left) => (struck, e :: left)

theorem hitFirst_eq_none_iff (selected : Entity → Bool) (damage : Int32) (es : List Entity) :
    hitFirst selected damage es = none ↔ ∀ e ∈ es, selected e = false := by
  induction es with
  | nil => simp [hitFirst]
  | cons first rest ih =>
      by_cases h : selected first = true <;> simp [hitFirst, h, ih]

end Entity
end GridRunner
