/-
Encodings in which a character has one byte or several.

ASCII characters have one byte.  The first byte of another character tells how many follow, and
a grid tells which pairs there are.
-/
import BorrowGraph.Encoding.Grid.Chinese
import BorrowGraph.Encoding.Grid.Japanese
import BorrowGraph.Encoding.Grid.Korean
import BorrowGraph.Encoding.Scan

namespace BorrowGraph.Encoding

/-- The encodings with one byte or several for a character. -/
inductive MultiByte where
  | big5
  | big5HongKong
  | codePage932
  | codePage949
  | codePage950
  | eucJapanese
  /-- JIS X 0213 behind the marks of its planes, as of 2004 or of 2000. -/
  | eucJisX0213 (is2004 : Bool)
  | eucKorean
  | gb18030
  | gb2312
  | gbk
  | johab
  | shiftJis
  /-- JIS X 0213 in the places of shifted rows, as of 2004 or of 2000. -/
  | shiftJisX0213 (is2004 : Bool)
  deriving DecidableEq, Repr

namespace MultiByte

/-- The name of an encoding in messages. -/
def codec : MultiByte → String
  | .big5 => "big5"
  | .big5HongKong => "big5hkscs"
  | .codePage932 => "cp932"
  | .codePage949 => "cp949"
  | .codePage950 => "cp950"
  | .eucJapanese => "euc_jp"
  | .eucJisX0213 true => "euc_jis_2004"
  | .eucJisX0213 false => "euc_jisx0213"
  | .eucKorean => "euc_kr"
  | .gb18030 => "gb18030"
  | .gb2312 => "gb2312"
  | .gbk => "gbk"
  | .johab => "johab"
  | .shiftJis => "shift_jis"
  | .shiftJisX0213 true => "shift_jis_2004"
  | .shiftJisX0213 false => "shift_jisx0213"

/-- What a pair of bytes is, if it may be a character. -/
def pairStep (isCharacter : Bool) : Step Unit :=
  if isCharacter then .taken 2 () else .illegal 1

/-- A pair of bytes, the second of which may be missing. -/
def needPair (rest : List UInt8) (pair : Nat → Step Unit) : Step Unit :=
  match rest with
  | [] => .cutOff 1 rest
  | c :: _ => pair c.toNat

/-- Two bytes behind the first one, either of which may be missing. -/
def needTriple (rest : List UInt8) (isCharacter : Nat → Nat → Bool) : Step Unit :=
  match rest with
  | c :: d :: _ => if isCharacter c.toNat d.toNat then .taken 3 () else .illegal 1
  | _ => .cutOff 1 rest

/-- The highest bit of a byte turned around: a byte of a character in a grid of seven bits. -/
def lowered (n : Nat) : Nat :=
  n ^^^ 0x80

/-- A pair in a grid of bytes. -/
def gridStep (g : Grid) (b : Nat) (rest : List UInt8) : Step Unit :=
  needPair rest fun c => pairStep (g.has b c)

/-- A pair in a grid of seven bits. -/
def highStep (g : Grid) (b : Nat) (rest : List UInt8) : Step Unit :=
  needPair rest fun c => pairStep (g.has (lowered b) (lowered c))

/-! ### Japanese -/

/-- The bytes of katakana of half the width. -/
def isKatakana (n : Nat) : Bool :=
  0xa1 ≤ n && n ≤ 0xdf

/-- A pair in the first plane of JIS X 0213.  Of the characters that came in 2004 both bytes
are refused before. -/
def firstPlaneStep (is2004 : Bool) (row cell : Nat) : Step Unit :=
  if !is2004 && jisX0213Added.contains (row, cell) then .illegal 2
  else pairStep (jisX0213First.has row cell)

/-- The encodings that mark katakana by one byte and a further set by another. -/
def markedStep (plain : Nat → Nat → Step Unit) (further : Nat → Nat → Bool) (b : Nat)
    (rest : List UInt8) : Step Unit :=
  if b = 0x8e then needPair rest fun c => pairStep (isKatakana c)
  else if b = 0x8f then needTriple rest fun c d => further (lowered c) (lowered d)
  else needPair rest fun c => plain (lowered b) (lowered c)

/-- The number of a row, from 0, and the cell for a pair of shifted bytes. -/
def shifted (b c : Nat) : Option (Nat × Nat) :=
  if c < 0x40 ∨ c = 0x7f ∨ 0xfc < c then none
  else
    let half := if b < 0xe0 then b - 0x81 else b - 0xc1
    let place := if c < 0x80 then c - 0x40 else c - 0x41
    some (if place < 0x5e then (2 * half, place + 0x21) else (2 * half + 1, place - 0x5e + 0x21))

/-- The row of the second plane for the number of a row behind the first plane. -/
def secondPlaneRow (n : Nat) : Nat :=
  if 0x67 ≤ n then n + 0x07
  else if 0x63 ≤ n ∨ n = 0x5f then n - 0x37
  else n - 0x3d

/-- The encodings with shifted rows, whose first bytes of pairs end with `last`. -/
def shiftedStep (last : Nat) (pair : Nat → Nat → Step Unit) (b : Nat) (rest : List UInt8) :
    Step Unit :=
  if isKatakana b then .taken 1 ()
  else if b = 0x80 ∨ b = 0xa0 ∨ last < b then .illegal 1
  else needPair rest fun c =>
    match shifted b c with
    | some (n, cell) => pair n cell
    | none => .illegal 1

/-- The bytes of code page 932 that are characters by themselves. -/
def singles932 : List Span := [(0x80, 0x80), (0xa0, 0xdf), (0xfd, 0xff)]

/-! ### Korean -/

/-- The letters that begin, continue and end a syllable made up of letters. -/
def syllableParts : List (List Span) := [
  [(0xa1, 0xa2), (0xa4, 0xa4), (0xa7, 0xa9), (0xb1, 0xb3), (0xb5, 0xbe)],
  [(0xbf, 0xd3)],
  [(0xa1, 0xa7), (0xa9, 0xb2), (0xb4, 0xb8), (0xba, 0xbe), (0xd4, 0xd4)]]

/-- Whether bytes are letters that make up a syllable, each behind the byte of letters. -/
def areParts : List (List Span) → List UInt8 → Bool
  | [], _ => true
  | part :: parts, b :: c :: rest => b.toNat = 0xa4 && inSpans part c.toNat && areParts parts rest
  | _, _ => false

/-- A character of KS X 1001, or a filler with the letters of a syllable behind it. -/
def koreanStep (b : Nat) (rest : List UInt8) : Step Unit :=
  needPair rest fun c =>
    if b = 0xa4 ∧ c = 0xd4 then
      if rest.length < 7 then .cutOff 1 rest
      else if areParts syllableParts (rest.drop 1) then .taken 8 ()
      else .illegal 1
    else pairStep (ksX1001.has (lowered b) (lowered c))

/-! ### Chinese -/

/-- Whether four bytes stand for a code point: those below 65536 come first, the others from
0x90 on. -/
def isQuadruple (b c d e : Nat) : Bool :=
  let isIn (lo hi n : Nat) : Bool := lo ≤ n && n ≤ hi
  isIn 0x81 0xfe b && isIn 0x30 0x39 c && isIn 0x81 0xfe d && isIn 0x30 0x39 e &&
    (let behind (first : Nat) : Nat :=
      (((b - first) * 10 + (c - 0x30)) * 126 + (d - 0x81)) * 10 + (e - 0x30)
    if b < 0x85 then behind 0x81 < 39420
    else 0x90 ≤ b && 0x10000 + behind 0x90 ≤ 0x10ffff)

/-- A pair, or four bytes if the second one is a digit. -/
def gb18030Step (b : Nat) (rest : List UInt8) : Step Unit :=
  needPair rest fun c =>
    if 0x30 ≤ c ∧ c ≤ 0x39 then
      match rest with
      | _ :: d :: e :: _ =>
        if isQuadruple b c d.toNat e.toNat then .taken 4 () else .illegal 1
      | _ => .cutOff 1 rest
    else pairStep (gb18030Pairs.has b c)

/-! ### All of them -/

/-- What the bytes at one position are. -/
def step (m : MultiByte) (b : UInt8) (rest : List UInt8) : Step Unit :=
  let n := b.toNat
  if n < 0x80 then .taken 1 ()
  else
    match m with
    | .big5 => gridStep Encoding.big5 n rest
    | .big5HongKong => gridStep Encoding.big5HongKong n rest
    | .codePage932 =>
      if inSpans singles932 n then .taken 1 () else gridStep Encoding.codePage932 n rest
    | .codePage949 => gridStep Encoding.codePage949 n rest
    | .codePage950 => gridStep Encoding.codePage950 n rest
    | .eucJapanese =>
      markedStep (fun row cell => pairStep (jisX0208.has row cell)) jisX0212.has n rest
    | .eucJisX0213 is2004 =>
      markedStep (firstPlaneStep is2004)
        (fun row cell => jisX0213Second.has row cell || jisX0212.has row cell) n rest
    | .eucKorean => koreanStep n rest
    | .gb18030 => gb18030Step n rest
    | .gb2312 => highStep Encoding.gb2312 n rest
    | .gbk => gridStep Encoding.gbk n rest
    | .johab => gridStep Encoding.johab n rest
    | .shiftJis =>
      shiftedStep 0xea (fun number cell => pairStep (jisX0208.has (number + 0x21) cell)) n rest
    | .shiftJisX0213 is2004 =>
      shiftedStep 0xfc (fun number cell =>
        if number < 0x5e then firstPlaneStep is2004 (number + 0x21) cell
        else pairStep (jisX0213Second.has (secondPlaneRow number) cell)) n rest

/-- The first place where bytes do not follow an encoding. -/
def fault? (m : MultiByte) (bytes : List UInt8) : Option Unread :=
  firstFault? m.codec (fun _ => m.step) () 0 0 bytes

end MultiByte
end BorrowGraph.Encoding
