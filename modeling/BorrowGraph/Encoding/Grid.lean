/-
Grids: which pairs of bytes stand for characters.

A set of characters with two bytes each is a grid of rows and cells.  Rows that have the same
cells share one entry of a table.
-/

namespace BorrowGraph.Encoding

/-- The numbers from one to another, both included. -/
abbrev Span := Nat × Nat

/-- Whether a number lies in one of several spans. -/
def inSpans (spans : List Span) (n : Nat) : Bool :=
  spans.any fun (lo, hi) => lo ≤ n && n ≤ hi

/-- A grid: for some rows, the cells that they have. -/
abbrev Grid := List (List Span × List Span)

/-- Whether a grid has a character. -/
def Grid.has (g : Grid) (row cell : Nat) : Bool :=
  g.any fun (rows, cells) => inSpans rows row && inSpans cells cell

end BorrowGraph.Encoding
