/-
Blank characters and trimming.

The blanks are the spaces of every script, the line and paragraph separators, and the control
characters that move the writing position, the four information separators included.
-/

namespace BorrowGraph.Text

/-- A white-space character of any script. -/
def isBlank (c : Char) : Bool :=
  let n := c.toNat
  (0x9 ≤ n && n ≤ 0xd) || (0x1c ≤ n && n ≤ 0x20) || n == 0x85 || n == 0xa0 || n == 0x1680
    || (0x2000 ≤ n && n ≤ 0x200a) || n == 0x2028 || n == 0x2029 || n == 0x202f || n == 0x205f
    || n == 0x3000

/-- A white-space character of the ASCII range that moves the writing position. -/
def isAsciiBlank (c : Char) : Bool :=
  let n := c.toNat
  (0x9 ≤ n && n ≤ 0xd) || n == 0x20

/-- Drop the characters satisfying `p` from both ends. -/
def trimBy (p : Char → Bool) (cs : List Char) : List Char :=
  (((cs.dropWhile p).reverse).dropWhile p).reverse

/-- Drop the blanks from both ends. -/
def trim (cs : List Char) : List Char :=
  trimBy isBlank cs

end BorrowGraph.Text
