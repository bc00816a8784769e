/-
Sets of Japanese characters.

The grids of the standards have rows and cells of seven bits; that of code page 932 has bytes.
-/
import BorrowGraph.Encoding.Grid

namespace BorrowGraph.Encoding

/-- JIS X 0208. -/
def jisX0208 : Grid := [
  ([(0x21, 0x21), (0x30, 0x4e), (0x50, 0x73)], [(0x21, 0x7e)]),
  ([(0x22, 0x22)], [(0x21, 0x2e), (0x3a, 0x41), (0x4a, 0x50), (0x5c, 0x6a), (0x72, 0x79),
    (0x7e, 0x7e)]),
  ([(0x23, 0x23)], [(0x30, 0x39), (0x41, 0x5a), (0x61, 0x7a)]),
  ([(0x24, 0x24)], [(0x21, 0x73)]),
  ([(0x25, 0x25)], [(0x21, 0x76)]),
  ([(0x26, 0x26)], [(0x21, 0x38), (0x41, 0x58)]),
  ([(0x27, 0x27)], [(0x21, 0x41), (0x51, 0x71)]),
  ([(0x28, 0x28)], [(0x21, 0x40)]),
  ([(0x4f, 0x4f)], [(0x21, 0x53)]),
  ([(0x74, 0x74)], [(0x21, 0x26)])]

/-- JIS X 0212. -/
def jisX0212 : Grid := [
  ([(0x22, 0x22)], [(0x2f, 0x39), (0x42, 0x44), (0x6b, 0x71)]),
  ([(0x26, 0x26)], [(0x61, 0x65), (0x67, 0x67), (0x69, 0x6a), (0x6c, 0x6c), (0x71, 0x7c)]),
  ([(0x27, 0x27)], [(0x42, 0x4e), (0x72, 0x7e)]),
  ([(0x29, 0x29)], [(0x21, 0x22), (0x24, 0x24), (0x26, 0x26), (0x28, 0x29), (0x2b, 0x2d),
    (0x2f, 0x30), (0x41, 0x50)]),
  ([(0x2a, 0x2a)], [(0x21, 0x38), (0x3a, 0x77)]),
  ([(0x2b, 0x2b)], [(0x21, 0x3b), (0x3d, 0x43), (0x45, 0x77)]),
  ([(0x30, 0x6c)], [(0x21, 0x7e)]),
  ([(0x6d, 0x6d)], [(0x21, 0x63)])]

/-- The first plane of JIS X 0213, as of 2004. -/
def jisX0213First : Grid := [
  ([(0x21, 0x23), (0x25, 0x27), (0x29, 0x2b), (0x2e, 0x7e)], [(0x21, 0x7e)]),
  ([(0x24, 0x24)], [(0x21, 0x7b)]),
  ([(0x28, 0x28)], [(0x21, 0x5e), (0x67, 0x7c)]),
  ([(0x2c, 0x2c)], [(0x21, 0x73), (0x7d, 0x7e)]),
  ([(0x2d, 0x2d)], [(0x21, 0x57), (0x5f, 0x6f), (0x73, 0x73), (0x78, 0x79), (0x7d, 0x7e)])]

/-- The characters of the first plane that came in 2004. -/
def jisX0213Added : List (Nat × Nat) := [
  (0x2e, 0x21), (0x2f, 0x7e), (0x4f, 0x54), (0x4f, 0x7e), (0x74, 0x27), (0x7e, 0x7a),
  (0x7e, 0x7b), (0x7e, 0x7c), (0x7e, 0x7d), (0x7e, 0x7e)]

/-- The second plane of JIS X 0213. -/
def jisX0213Second : Grid := [
  ([(0x21, 0x21), (0x23, 0x25), (0x28, 0x28), (0x2c, 0x2f), (0x6e, 0x7d)], [(0x21, 0x7e)]),
  ([(0x7e, 0x7e)], [(0x21, 0x76)])]

/-- Code page 932. -/
def codePage932 : Grid := [
  ([(0x81, 0x81)], [(0x40, 0x7e), (0x80, 0xac), (0xb8, 0xbf), (0xc8, 0xce), (0xda, 0xe8),
    (0xf0, 0xf7), (0xfc, 0xfc)]),
  ([(0x82, 0x82)], [(0x4f, 0x58), (0x60, 0x79), (0x81, 0x9a), (0x9f, 0xf1)]),
  ([(0x83, 0x83)], [(0x40, 0x7e), (0x80, 0x96), (0x9f, 0xb6), (0xbf, 0xd6)]),
  ([(0x84, 0x84)], [(0x40, 0x60), (0x70, 0x7e), (0x80, 0x91), (0x9f, 0xbe)]),
  ([(0x87, 0x87)], [(0x40, 0x5d), (0x5f, 0x75), (0x7e, 0x7e), (0x80, 0x9c)]),
  ([(0x88, 0x88)], [(0x9f, 0xfc)]),
  ([(0x89, 0x97), (0x99, 0x9f), (0xe0, 0xe9), (0xed, 0xed), (0xf0, 0xfb)], [(0x40, 0x7e),
    (0x80, 0xfc)]),
  ([(0x98, 0x98)], [(0x40, 0x72), (0x9f, 0xfc)]),
  ([(0xea, 0xea)], [(0x40, 0x7e), (0x80, 0xa4)]),
  ([(0xee, 0xee)], [(0x40, 0x7e), (0x80, 0xec), (0xef, 0xfc)]),
  ([(0xfc, 0xfc)], [(0x40, 0x4b)])]

end BorrowGraph.Encoding
