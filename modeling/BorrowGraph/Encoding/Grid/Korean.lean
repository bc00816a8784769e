/-
Sets of Korean characters.

The grid of the standard has rows and cells of seven bits; the others have bytes.
-/
import BorrowGraph.Encoding.Grid

namespace BorrowGraph.Encoding

/-- KS X 1001. -/
def ksX1001 : Grid := [
  ([(0x21, 0x21), (0x23, 0x24), (0x29, 0x29), (0x30, 0x48), (0x4a, 0x7d)], [(0x21, 0x7e)]),
  ([(0x22, 0x22)], [(0x21, 0x67)]),
  ([(0x25, 0x25)], [(0x21, 0x2a), (0x30, 0x39), (0x41, 0x58), (0x61, 0x78)]),
  ([(0x26, 0x26)], [(0x21, 0x64)]),
  ([(0x27, 0x27)], [(0x21, 0x6f)]),
  ([(0x28, 0x28)], [(0x21, 0x24), (0x26, 0x26), (0x28, 0x2f), (0x31, 0x7e)]),
  ([(0x2a, 0x2a)], [(0x21, 0x73)]),
  ([(0x2b, 0x2b)], [(0x21, 0x76)]),
  ([(0x2c, 0x2c)], [(0x21, 0x41), (0x51, 0x71)])]

/-- Code page 949. -/
def codePage949 : Grid := [
  ([(0x81, 0xa1), (0xa3, 0xa4), (0xa9, 0xa9), (0xb0, 0xc5)], [(0x41, 0x5a), (0x61, 0x7a),
    (0x81, 0xfe)]),
  ([(0xa2, 0xa2)], [(0x41, 0x5a), (0x61, 0x7a), (0x81, 0xe7)]),
  ([(0xa5, 0xa5)], [(0x41, 0x5a), (0x61, 0x7a), (0x81, 0xaa), (0xb0, 0xb9), (0xc1, 0xd8),
    (0xe1, 0xf8)]),
  ([(0xa6, 0xa6)], [(0x41, 0x5a), (0x61, 0x7a), (0x81, 0xe4)]),
  ([(0xa7, 0xa7)], [(0x41, 0x5a), (0x61, 0x7a), (0x81, 0xef)]),
  ([(0xa8, 0xa8)], [(0x41, 0x5a), (0x61, 0x7a), (0x81, 0xa4), (0xa6, 0xa6), (0xa8, 0xaf),
    (0xb1, 0xfe)]),
  ([(0xaa, 0xaa)], [(0x41, 0x5a), (0x61, 0x7a), (0x81, 0xf3)]),
  ([(0xab, 0xab)], [(0x41, 0x5a), (0x61, 0x7a), (0x81, 0xf6)]),
  ([(0xac, 0xac)], [(0x41, 0x5a), (0x61, 0x7a), (0x81, 0xc1), (0xd1, 0xf1)]),
  ([(0xad, 0xaf)], [(0x41, 0x5a), (0x61, 0x7a), (0x81, 0xa0)]),
  ([(0xc6, 0xc6)], [(0x41, 0x52), (0xa1, 0xfe)]),
  ([(0xc7, 0xc8), (0xca, 0xfd)], [(0xa1, 0xfe)])]

/-- Johab: syllables by their letters, and the other characters of KS X 1001. -/
def johab : Grid := [
  ([(0x84, 0x84)], [(0x41, 0x51), (0x53, 0x5d), (0x61, 0x61), (0x81, 0x81), (0xa1, 0xa1),
    (0xc1, 0xc1), (0xe1, 0xe1)]),
  ([(0x85, 0x86)], [(0x41, 0x41), (0x61, 0x61), (0x81, 0x81), (0xa1, 0xa1), (0xc1, 0xc1),
    (0xe1, 0xe1)]),
  ([(0x87, 0x87)], [(0x41, 0x41), (0x61, 0x61), (0x81, 0x81), (0xa1, 0xa1)]),
  ([(0x88, 0x88), (0x8c, 0x8c), (0x90, 0x90), (0x94, 0x94), (0x98, 0x98), (0x9c, 0x9c),
    (0xa0, 0xa0), (0xa4, 0xa4), (0xa8, 0xa8), (0xac, 0xac), (0xb0, 0xb0), (0xb4, 0xb4),
    (0xb8, 0xb8), (0xbc, 0xbc), (0xc0, 0xc0), (0xc4, 0xc4), (0xc8, 0xc8), (0xcc, 0xcc),
    (0xd0, 0xd0)], [(0x41, 0x41), (0x61, 0x71), (0x73, 0x7d), (0x81, 0x91), (0x93, 0x9d),
    (0xa1, 0xb1), (0xb3, 0xbd), (0xc1, 0xd1), (0xd3, 0xdd), (0xe1, 0xf1), (0xf3, 0xfd)]),
  ([(0x89, 0x8a), (0x8d, 0x8e), (0x91, 0x92), (0x95, 0x96), (0x99, 0x9a), (0x9d, 0x9e),
    (0xa1, 0xa2), (0xa5, 0xa6), (0xa9, 0xaa), (0xad, 0xae), (0xb1, 0xb2), (0xb5, 0xb6),
    (0xb9, 0xba), (0xbd, 0xbe), (0xc1, 0xc2), (0xc5, 0xc6), (0xc9, 0xca), (0xcd, 0xce),
    (0xd1, 0xd2)], [(0x41, 0x51), (0x53, 0x5d), (0x61, 0x71), (0x73, 0x7d), (0x81, 0x91),
    (0x93, 0x9d), (0xa1, 0xb1), (0xb3, 0xbd), (0xc1, 0xd1), (0xd3, 0xdd), (0xe1, 0xf1),
    (0xf3, 0xfd)]),
  ([(0x8b, 0x8b), (0x8f, 0x8f), (0x93, 0x93), (0x97, 0x97), (0x9b, 0x9b), (0x9f, 0x9f),
    (0xa3, 0xa3), (0xa7, 0xa7), (0xab, 0xab), (0xaf, 0xaf), (0xb3, 0xb3), (0xb7, 0xb7),
    (0xbb, 0xbb), (0xbf, 0xbf), (0xc3, 0xc3), (0xc7, 0xc7), (0xcb, 0xcb), (0xcf, 0xcf),
    (0xd3, 0xd3)], [(0x41, 0x51), (0x53, 0x5d), (0x61, 0x71), (0x73, 0x7d), (0x81, 0x91),
    (0x93, 0x9d), (0xa1, 0xb1), (0xb3, 0xbd)]),
  ([(0xd9, 0xd9)], [(0x31, 0x7e), (0x91, 0xe7)]),
  ([(0xda, 0xda)], [(0x31, 0x7e), (0x91, 0xa0), (0xd4, 0xfe)]),
  ([(0xdb, 0xdb)], [(0x31, 0x3a), (0x40, 0x49), (0x51, 0x68), (0x71, 0x7e), (0x91, 0x9a),
    (0xa1, 0xe4)]),
  ([(0xdc, 0xdc)], [(0x31, 0x7e), (0x91, 0x91), (0xa1, 0xa4), (0xa6, 0xa6), (0xa8, 0xaf),
    (0xb1, 0xfe)]),
  ([(0xdd, 0xdd)], [(0x31, 0x7e), (0x91, 0xf3)]),
  ([(0xde, 0xde)], [(0x31, 0x7e), (0x91, 0x98), (0xa1, 0xc1), (0xd1, 0xf1)]),
  ([(0xe0, 0xf9)], [(0x31, 0x7e), (0x91, 0xfe)])]

end BorrowGraph.Encoding
