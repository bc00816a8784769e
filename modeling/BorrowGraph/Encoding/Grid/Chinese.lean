/-
Sets of Chinese characters.

The grid of GB 2312 has rows and cells of seven bits; the others have bytes.
-/
import BorrowGraph.Encoding.Grid

namespace BorrowGraph.Encoding

/-- GB 2312. -/
def gb2312 : Grid := [
  ([(0x21, 0x21), (0x23, 0x23), (0x30, 0x56), (0x58, 0x77)], [(0x21, 0x7e)]),
  ([(0x22, 0x22)], [(0x31, 0x62), (0x65, 0x6e), (0x71, 0x7c)]),
  ([(0x24, 0x24)], [(0x21, 0x73)]),
  ([(0x25, 0x25)], [(0x21, 0x76)]),
  ([(0x26, 0x26)], [(0x21, 0x38), (0x41, 0x58)]),
  ([(0x27, 0x27)], [(0x21, 0x41), (0x51, 0x71)]),
  ([(0x28, 0x28)], [(0x21, 0x3a), (0x45, 0x69)]),
  ([(0x29, 0x29)], [(0x24, 0x6f)]),
  ([(0x57, 0x57)], [(0x21, 0x79)])]

/-- GBK. -/
def gbk : Grid := [
  ([(0x81, 0xa0), (0xb0, 0xd6), (0xd8, 0xf7)], [(0x40, 0x7e), (0x80, 0xfe)]),
  ([(0xa1, 0xa1), (0xa3, 0xa3)], [(0xa1, 0xfe)]),
  ([(0xa2, 0xa2)], [(0xa1, 0xaa), (0xb1, 0xe2), (0xe5, 0xee), (0xf1, 0xfc)]),
  ([(0xa4, 0xa4)], [(0xa1, 0xf3)]),
  ([(0xa5, 0xa5)], [(0xa1, 0xf6)]),
  ([(0xa6, 0xa6)], [(0xa1, 0xb8), (0xc1, 0xd8), (0xe0, 0xeb), (0xee, 0xf2), (0xf4, 0xf5)]),
  ([(0xa7, 0xa7)], [(0xa1, 0xc1), (0xd1, 0xf1)]),
  ([(0xa8, 0xa8)], [(0x40, 0x7e), (0x80, 0x95), (0xa1, 0xbb), (0xbd, 0xbe), (0xc0, 0xc0),
    (0xc5, 0xe9)]),
  ([(0xa9, 0xa9)], [(0x40, 0x57), (0x59, 0x5a), (0x5c, 0x5c), (0x60, 0x7e), (0x80, 0x88),
    (0x96, 0x96), (0xa4, 0xef)]),
  ([(0xaa, 0xaf), (0xf8, 0xfd)], [(0x40, 0x7e), (0x80, 0xa0)]),
  ([(0xd7, 0xd7)], [(0x40, 0x7e), (0x80, 0xf9)]),
  ([(0xfe, 0xfe)], [(0x40, 0x4f)])]

/-- The pairs of GB 18030. -/
def gb18030Pairs : Grid := [
  ([(0x81, 0xfe)], [(0x40, 0x7e), (0x80, 0xfe)])]

/-- Big5. -/
def big5 : Grid := [
  ([(0xa1, 0xa2), (0xa4, 0xc6), (0xc9, 0xf8)], [(0x40, 0x7e), (0xa1, 0xfe)]),
  ([(0xa3, 0xa3)], [(0x40, 0x7e), (0xa1, 0xbf)]),
  ([(0xc7, 0xc7)], [(0x40, 0x7e), (0xa1, 0xfc)]),
  ([(0xf9, 0xf9)], [(0x40, 0x7e), (0xa1, 0xd5)])]

/-- Big5 with the supplement of Hong Kong. -/
def big5HongKong : Grid := [
  ([(0x87, 0x87)], [(0x40, 0x65), (0x67, 0x79)]),
  ([(0x88, 0x88)], [(0x40, 0x7e), (0xa1, 0xaa)]),
  ([(0x89, 0x89)], [(0x40, 0x41), (0x43, 0x43), (0x46, 0x49), (0x4c, 0x7e), (0xa1, 0xa6),
    (0xab, 0xae), (0xb0, 0xb2), (0xb5, 0xbf), (0xc1, 0xc3), (0xc5, 0xfe)]),
  ([(0x8a, 0x8a)], [(0x40, 0x41), (0x43, 0x62), (0x64, 0x74), (0x76, 0x7e), (0xa1, 0xaa),
    (0xac, 0xb0), (0xb2, 0xb9), (0xbb, 0xc7), (0xc9, 0xcc), (0xce, 0xdc), (0xdf, 0xf4),
    (0xf6, 0xfe)]),
  ([(0x8b, 0x8b)], [(0x40, 0x53), (0x55, 0x7e), (0xa1, 0xdc), (0xde, 0xfd)]),
  ([(0x8c, 0x8c)], [(0x40, 0x7e), (0xa1, 0xa5), (0xa7, 0xc5), (0xc9, 0xcc), (0xce, 0xe4),
    (0xe6, 0xfe)]),
  ([(0x8d, 0x8d)], [(0x40, 0x40), (0x42, 0x7e), (0xa1, 0xfe)]),
  ([(0x8e, 0x8e)], [(0x40, 0x68), (0x6a, 0x6e), (0x70, 0x7d), (0xa1, 0xaa), (0xac, 0xb3),
    (0xb5, 0xcc), (0xce, 0xcf), (0xd1, 0xfe)]),
  ([(0x8f, 0x8f)], [(0x40, 0x56), (0x58, 0x68), (0x6a, 0x6d), (0x6f, 0x7e), (0xa1, 0xca),
    (0xcd, 0xfd)]),
  ([(0x90, 0x90)], [(0x40, 0x6c), (0x6e, 0x79), (0x7b, 0x7e), (0xa1, 0xdb), (0xdd, 0xf0),
    (0xf2, 0xfe)]),
  ([(0x91, 0x91)], [(0x40, 0x7e), (0xa1, 0xbe), (0xc0, 0xfe)]),
  ([(0x92, 0x92)], [(0x40, 0x43), (0x45, 0x7e), (0xa1, 0xae), (0xb3, 0xc7), (0xc9, 0xd0),
    (0xd2, 0xfe)]),
  ([(0x93, 0x93), (0x97, 0x9a), (0xa1, 0xa2), (0xa4, 0xc5), (0xc7, 0xc7), (0xc9, 0xf9)],
    [(0x40, 0x7e), (0xa1, 0xfe)]),
  ([(0x94, 0x94)], [(0x40, 0x46), (0x48, 0x7e), (0xa1, 0xc9), (0xcb, 0xfe)]),
  ([(0x95, 0x95)], [(0x40, 0x7e), (0xa1, 0xd8), (0xda, 0xfe)]),
  ([(0x96, 0x96)], [(0x40, 0x43), (0x45, 0x7e), (0xa1, 0xec), (0xee, 0xfb), (0xfd, 0xfe)]),
  ([(0x9b, 0x9b)], [(0x40, 0x60), (0x62, 0x75), (0x77, 0x77), (0x79, 0x7a), (0x7c, 0x7e),
    (0xa1, 0xc5), (0xc7, 0xdd), (0xdf, 0xeb), (0xed, 0xf5), (0xf7, 0xfe)]),
  ([(0x9c, 0x9c)], [(0x40, 0x41), (0x43, 0x52), (0x54, 0x61), (0x63, 0x67), (0x69, 0x6a),
    (0x6c, 0x76), (0x78, 0x7e), (0xa1, 0xbb), (0xbe, 0xcf), (0xd1, 0xfe)]),
  ([(0x9d, 0x9d)], [(0x40, 0x56), (0x58, 0x59), (0x5b, 0x7e), (0xa1, 0xc3), (0xc5, 0xfe)]),
  ([(0x9e, 0x9e)], [(0x40, 0x7e), (0xa1, 0xa8), (0xaa, 0xab), (0xad, 0xc3), (0xc5, 0xee),
    (0xf0, 0xf3), (0xf5, 0xfc), (0xfe, 0xfe)]),
  ([(0x9f, 0x9f)], [(0x40, 0x4d), (0x4f, 0x5f), (0x61, 0x65), (0x67, 0x7e), (0xa1, 0xac),
    (0xae, 0xb0), (0xb2, 0xbf), (0xc1, 0xc7), (0xc9, 0xca), (0xcc, 0xd7), (0xd9, 0xd9),
    (0xdb, 0xe5), (0xe7, 0xe9), (0xeb, 0xee), (0xf0, 0xfe)]),
  ([(0xa0, 0xa0)], [(0x40, 0x53), (0x55, 0x56), (0x58, 0x59), (0x5b, 0x61), (0x64, 0x71),
    (0x73, 0x76), (0x78, 0x7e), (0xa1, 0xa4), (0xa6, 0xac), (0xae, 0xae), (0xb0, 0xd2),
    (0xd4, 0xd4), (0xd6, 0xde), (0xe0, 0xe0), (0xe2, 0xe3), (0xe5, 0xfe)]),
  ([(0xa3, 0xa3)], [(0x40, 0x7e), (0xa1, 0xbf)]),
  ([(0xc6, 0xc6)], [(0x40, 0x7e), (0xa1, 0xce), (0xd0, 0xd2), (0xd4, 0xd4), (0xd6, 0xd6),
    (0xd8, 0xdd), (0xe0, 0xfe)]),
  ([(0xc8, 0xc8)], [(0x40, 0x7e), (0xa1, 0xa4), (0xcd, 0xf1), (0xf5, 0xfe)]),
  ([(0xfa, 0xfa)], [(0x40, 0x5e), (0x60, 0x65), (0x67, 0x7e), (0xa1, 0xbc), (0xbe, 0xc4),
    (0xc6, 0xd4), (0xd6, 0xfe)]),
  ([(0xfb, 0xfb)], [(0x40, 0x47), (0x49, 0x7e), (0xa1, 0xb7), (0xb9, 0xf2), (0xf4, 0xf8),
    (0xfa, 0xfe)]),
  ([(0xfc, 0xfc)], [(0x40, 0x4e), (0x50, 0x6b), (0x6d, 0x7e), (0xa1, 0xb8), (0xba, 0xe1),
    (0xe3, 0xf0), (0xf2, 0xfe)]),
  ([(0xfd, 0xfd)], [(0x40, 0x7e), (0xa1, 0xb6), (0xb9, 0xba), (0xbc, 0xf0), (0xf2, 0xfe)]),
  ([(0xfe, 0xfe)], [(0x40, 0x51), (0x53, 0x6e), (0x70, 0x7e), (0xa1, 0xa9), (0xab, 0xdc),
    (0xde, 0xfe)])]

/-- Code page 950. -/
def codePage950 : Grid := [
  ([(0xa1, 0xa2), (0xa4, 0xc6), (0xc9, 0xf9)], [(0x40, 0x7e), (0xa1, 0xfe)]),
  ([(0xa3, 0xa3)], [(0x40, 0x7e), (0xa1, 0xbf), (0xe1, 0xe1)]),
  ([(0xc7, 0xc7)], [(0x40, 0x7e), (0xa1, 0xfc)])]

end BorrowGraph.Encoding
