/-
Line structure of text.

Text read from a file has its line ends unified to `\n` first.  Relation files are then cut at
every kind of line boundary, listings only at `\n`, each listing line keeping its end.
-/

namespace BorrowGraph.Text

/-- Write every line end (`\r\n` or a lone `\r`) as `\n`. -/
def unifyLineEnds : List Char → List Char
  | [] => []
  | '\r' :: '\n' :: cs => '\n' :: unifyLineEnds cs
  | '\r' :: cs => '\n' :: unifyLineEnds cs
  | c :: cs => c :: unifyLineEnds cs

/-- A character that ends a line in a relation file. -/
def isLineEnd (c : Char) : Bool :=
  let n := c.toNat
  (0xa ≤ n && n ≤ 0xd) || (0x1c ≤ n && n ≤ 0x1e) || n == 0x85 || n == 0x2028 || n == 0x2029

/-- Put a character in front of the first line, starting one if there is none. -/
def consLine (c : Char) : List (List Char) → List (List Char)
  | [] => [[c]]
  | line :: lines => (c :: line) :: lines

/-- The lines of a text whose ends are unified, without their ends; a final line end starts no
new line. -/
def lines : List Char → List (List Char)
  | [] => []
  | c :: cs => if isLineEnd c then [] :: lines cs else consLine c (lines cs)

/-- The lines of a text cut after each `\n`, ends included. -/
def linesWithEnds : List Char → List (List Char)
  | [] => []
  | c :: cs => if c = '\n' then ['\n'] :: linesWithEnds cs else consLine c (linesWithEnds cs)

end BorrowGraph.Text
