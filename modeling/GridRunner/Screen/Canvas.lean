import GridRunner.Screen.Glyph

/-!
# Canvases

A canvas is a rectangle of cells.  Drawing overwrites part of a row and never
changes the size of the canvas.  A glyph of two columns stands in the first of its
cells and leaves the other one blank.
-/

namespace GridRunner

structure Cell where
  symbol : String := " "
  style : Style := {}
  deriving DecidableEq, Repr, Inhabited

namespace Glyph

def cell (g : Glyph) : Cell := ⟨g.symbol, g.style⟩

def covered (g : Glyph) : List Cell := List.replicate (g.width - 1) {}

/-- The cells of a line of a paragraph.  Glyphs without a column are left out. -/
def cells (glyphs : List Glyph) : List Cell :=
  (glyphs.filter (·.width ≠ 0)).flatMap fun g => g.cell :: g.covered

/-- One more glyph in a row of cells, the last cell first, that ends at a column.  A glyph without a
column joins the cell before it, and one that comes after nothing else joins those. -/
def join (column : Nat) (row : List Cell) (g : Glyph) : List Cell :=
  match row with
  | [] => g.covered ++ [g.cell]
  | last :: before =>
      if column = 0 ∨ g.width = 0 then
        g.covered ++ ⟨last.symbol ++ g.symbol, g.style⟩ :: before
      else g.covered ++ g.cell :: last :: before

def joinFrom (column : Nat) (row : List Cell) : List Glyph → List Cell
  | [] => row.reverse
  | g :: rest => joinFrom (column + g.width) (g.join column row) rest

/-- The cells of a line that is no paragraph, as far as it fits. -/
def joined (room : Nat) (glyphs : List Glyph) : List Cell := joinFrom 0 [] (fitting room glyphs)

end Glyph

/-- Rows of cells, top row first. -/
abbrev Canvas := List (List Cell)

structure Area where
  x : Nat
  y : Nat
  width : Nat
  height : Nat
  deriving DecidableEq, Repr

namespace Area

def inner (a : Area) : Area := ⟨a.x + 1, a.y + 1, a.width - 2, a.height - 2⟩

def centred (a : Area) (width : Nat) : Nat := a.width / 2 - width / 2

end Area

namespace Canvas

def blank (width height : Nat) : Canvas := List.replicate height (List.replicate width {})

/-- Part of a row replaced, as far as the row goes. -/
def overlay (x : Nat) (cells row : List Cell) : List Cell :=
  row.take x ++ cells.take (row.length - x) ++ row.drop (x + cells.length)

def write (x y : Nat) (cells : List Cell) (c : Canvas) : Canvas := c.modify y (overlay x cells)

/-- Writes one row of cells after another, from the top of an area, as far as it goes. -/
def writeRows (a : Area) (rows : List (Nat × List Cell)) (c : Canvas) : Canvas :=
  ((rows.take a.height).zipIdx).foldl (fun c ((offset, cells), i) =>
    c.write (a.x + offset) (a.y + i) (cells.take (a.width - offset))) c

def fill (a : Area) (cell : Cell) (c : Canvas) : Canvas :=
  c.writeRows a (List.replicate a.height (0, List.replicate a.width cell))

/-- Draws the frame of a pane with a title in its upper edge.  A pane of one row is all upper
edge. -/
def frame (a : Area) (border : Style) (title : List Glyph) (c : Canvas) : Canvas :=
  if a.width = 0 ∨ a.height = 0 then c
  else
    let edge := fun left right : String =>
      ⟨left, border⟩ :: (List.replicate (a.width - 2) (Cell.mk "─" border) ++ [⟨right, border⟩])
    let sides := (List.range' 1 (a.height - 2)).foldl (fun c i =>
      (c.write a.x (a.y + i) [⟨"│", border⟩]).write (a.x + a.width - 1) (a.y + i) [⟨"│", border⟩]) c
    let lower :=
      if a.height > 1 then sides.write a.x (a.y + a.height - 1) (edge "└" "┘") else sides
    let upper := lower.write a.x a.y (edge "┌" "┐")
    upper.write (a.x + 1) a.y (Glyph.joined (a.width - 2) title)

end Canvas
end GridRunner
