/-!
# Cells of the grid

A position is a column and a row, each held in 32 signed bits.  Distance is counted in king's steps,
so the eight neighbours of a cell, and the cell itself, are the ones in reach.
-/

namespace GridRunner

/-- What 32 signed bits hold of a number. -/
def wrapped (n : Int) : Int := (Int32.ofInt n).toInt

theorem wrapped_eq_bmod (n : Int) : wrapped n = n.bmod Int32.size := Int32.toInt_ofInt

theorem wrapped_of_fits {n : Int} (least : -2147483648 ≤ n) (greatest : n ≤ 2147483647) :
    wrapped n = n := by
  rw [wrapped_eq_bmod, Int32.size, Int.bmod_eq_of_le (by omega) (by omega)]

/-- A cell, column first; rows grow downwards.  Columns are compared before rows. -/
structure Position where
  x : Int
  y : Int
  deriving DecidableEq, Repr, Inhabited, Ord

namespace Position

def origin : Position := ⟨0, 0⟩

def plus (p : Position) (dx dy : Int) : Position := ⟨p.x + dx, p.y + dy⟩

/-- The same with sums of 32 bits. -/
def shift (p : Position) (dx dy : Int) : Position :=
  ⟨wrapped (p.plus dx dy).x, wrapped (p.plus dx dy).y⟩

/-- King's steps between two cells. -/
def distance (p q : Position) : Nat := max (p.x - q.x).natAbs (p.y - q.y).natAbs

/-- Whether `q` is `p` or one of its eight neighbours. -/
def reaches (p q : Position) : Bool := p.distance q ≤ 1

def text (p : Position) : String := s!"({p.x}, {p.y})"

theorem reaches_iff (p q : Position) :
    p.reaches q = true ↔ (p.x - q.x).natAbs ≤ 1 ∧ (p.y - q.y).natAbs ≤ 1 := by
  rw [reaches, decide_eq_true_iff, distance]
  omega

/-- Neither coordinate leaves the range of 32 bits. -/
def Fits (p : Position) : Prop :=
  (-2147483648 ≤ p.x ∧ p.x ≤ 2147483647) ∧ -2147483648 ≤ p.y ∧ p.y ≤ 2147483647

theorem shift_of_fits {p : Position} {dx dy : Int} (h : (p.plus dx dy).Fits) :
    p.shift dx dy = p.plus dx dy := by
  obtain ⟨⟨left, right⟩, above, below⟩ := h
  rw [shift, wrapped_of_fits left right, wrapped_of_fits above below]

end Position
end GridRunner
