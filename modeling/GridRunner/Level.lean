import GridRunner.Table

/-!
# Level descriptions

A level is a map of characters with a title, its instructions and a par.
-/

namespace GridRunner

/-- Rows of characters, top row first. -/
abbrev Grid := List (List Char)

namespace Grid

/-- The glyph of an open cell; every other glyph of a bare grid is a wall. -/
def floor : Char := '.'

def ofRows (rows : List String) : Grid := rows.map String.toList

def rows (g : Grid) : List String := g.map String.ofList

def width (g : Grid) : Nat := (g.head?.map List.length).getD 0

def height (g : Grid) : Nat := g.length

def at? (g : Grid) (x y : Nat) : Option Char := (g[y]?).bind (·[x]?)

/-- The grid with one cell repainted; a cell outside it changes nothing. -/
def paint (g : Grid) (x y : Nat) (c : Char) : Grid := g.modify y (·.set x c)

end Grid

structure Level where
  number : Nat
  name : String
  instructions : String
  map : Grid
  /-- Commands the level teaches, in increasing order without repetition. -/
  commands : List String := []
  /-- Keystrokes of a flawless run. -/
  par : Nat := 0
  deriving DecidableEq, Repr, Inhabited

namespace Level

/-- The distinct names of a list in increasing order of their code points. -/
def commandSet (commands : List String) : List String :=
  (Table.ofList (commands.map (·, ()))).entries.map (·.1)

end Level
end GridRunner
