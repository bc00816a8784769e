/-
Encodings that switch between sets of characters.

All bytes have seven bits.  Sequences of bytes between the characters say which set the next
bytes belong to: escape sequences, shifts, or a tilde with a brace behind it.
-/
import BorrowGraph.Encoding.Grid.Chinese
import BorrowGraph.Encoding.Grid.Japanese
import BorrowGraph.Encoding.Grid.Korean
import BorrowGraph.Encoding.Scan

namespace BorrowGraph.Encoding

/-! ### Escape sequences -/

/-- The sets of characters that escape sequences can name. -/
inductive Charset where
  | ascii
  | jisX0201Roman
  | jisX0201Katakana
  | jisX0208
  | jisX0208Old
  | jisX0212
  | jisX0213First (is2004 : Bool)
  | jisX0213Second
  | ksX1001
  | gb2312
  | latin1
  | greek
  deriving DecidableEq, Repr

namespace Charset

/-- The byte that names a set, and whether its characters have two bytes. -/
def mark : Charset → Char × Bool
  | .ascii => ('B', false)
  | .jisX0201Roman => ('J', false)
  | .jisX0201Katakana => ('I', false)
  | .jisX0208 => ('B', true)
  | .jisX0208Old => ('@', true)
  | .jisX0212 => ('D', true)
  | .jisX0213First true => ('Q', true)
  | .jisX0213First false => ('O', true)
  | .jisX0213Second => ('P', true)
  | .ksX1001 => ('C', true)
  | .gb2312 => ('A', true)
  | .latin1 => ('A', false)
  | .greek => ('F', false)

/-- Whether two bytes are a character of a set. -/
def hasPair (row cell : Nat) : Charset → Bool
  | .jisX0208 | .jisX0208Old => Encoding.jisX0208.has row cell
  | .jisX0212 => Encoding.jisX0212.has row cell
  | .jisX0213First is2004 =>
    Encoding.jisX0213First.has row cell && (is2004 || (row, cell) ∉ jisX0213Added)
  | .jisX0213Second => Encoding.jisX0213Second.has row cell
  | .ksX1001 => Encoding.ksX1001.has row cell
  | .gb2312 => Encoding.gb2312.has row cell
  | _ => false

/-- The bytes for which there is no Greek character. -/
def greekGaps : List Nat := [0x24, 0x25, 0x2a, 0x2e, 0x52, 0x7f]

/-- Whether one byte is a character of a third set, if the set can be that. -/
def hasThird? (n : Nat) : Charset → Option Bool
  | .ascii | .latin1 => some (n < 0x80)
  | .greek => some (n ∉ greekGaps)
  | _ => none

/-- Whether one byte is a character of a set.  Latin and Greek have characters only as the
third set. -/
def hasSingle (n : Nat) : Charset → Bool
  | .jisX0201Katakana => 0x21 ≤ n && n ≤ 0x5f
  | .latin1 | .greek => false
  | _ => true

end Charset

/-- The encodings with escape sequences. -/
inductive Designated where
  | japanese
  | japanese1
  | japanese2
  | japanese3
  | japanese2004
  | japaneseExtended
  | korean
  deriving DecidableEq, Repr

namespace Designated

/-- The name of an encoding in messages. -/
def codec : Designated → String
  | .japanese => "iso2022_jp"
  | .japanese1 => "iso2022_jp_1"
  | .japanese2 => "iso2022_jp_2"
  | .japanese3 => "iso2022_jp_3"
  | .japanese2004 => "iso2022_jp_2004"
  | .japaneseExtended => "iso2022_jp_ext"
  | .korean => "iso2022_kr"

/-- The sets that an encoding can name. -/
def charsets : Designated → List Charset
  | .japanese => [.ascii, .jisX0208, .jisX0201Roman, .jisX0208Old]
  | .japanese1 => [.ascii, .jisX0208, .jisX0212, .jisX0201Roman, .jisX0208Old]
  | .japanese2 => [.ascii, .jisX0208, .jisX0212, .ksX1001, .gb2312, .jisX0201Roman, .jisX0208Old,
      .latin1, .greek]
  | .japanese3 => [.ascii, .jisX0208, .jisX0213First false, .jisX0213Second]
  | .japanese2004 => [.ascii, .jisX0208, .jisX0213First true, .jisX0213Second]
  | .japaneseExtended => [.ascii, .jisX0208, .jisX0212, .jisX0201Roman, .jisX0201Katakana,
      .jisX0208Old]
  | .korean => [.ascii, .ksX1001]

/-- Whether a set can be used for one character only. -/
def hasThird (d : Designated) : Bool :=
  d = .japanese2

/-- Whether bytes shift between the first set and the second. -/
def hasShifts (d : Designated) : Bool :=
  d = .korean

/-- Which sets are in use. -/
structure Sets where
  first : Charset := .ascii
  second : Charset := .ascii
  third : Charset := .ascii
  /-- Whether the second set counts. -/
  isShifted : Bool := false
  /-- Whether an escape sequence that is none of these is passed over. -/
  isPassing : Bool := false
  deriving DecidableEq, Repr

/-- The byte that begins an escape sequence. -/
def escape : Nat := 0x1b

/-- Whether a byte ends an escape sequence. -/
def isLast (n : Nat) : Bool :=
  0x40 ≤ n && n ≤ 0x5a

/-- How many bytes are searched for the end of an escape sequence. -/
def longest : Nat := 16

/-- The width of an escape sequence from the `i`-th byte on: it is found, or there is none, or
the bytes end before.  The name of an older set may stand before a sequence. -/
inductive Width where
  | found (width : Nat)
  | unending
  | cutOff
  deriving DecidableEq, Repr

def width (prefixed : Bool) (i skip : Nat) : List UInt8 → Width
  | [] => if longest ≤ i + skip then .unending else .cutOff
  | b :: bs =>
    match skip with
    | skip + 1 => width prefixed (i + 1) skip bs
    | 0 =>
      if longest ≤ i then .unending
      else if isLast b.toNat then .found (i + 1)
      else if prefixed && b.toNat = 0x26 && bs.head?.map UInt8.toNat = some 0x40 then
        width prefixed (i + 1) 2 bs
      else width prefixed (i + 1) 0 bs

/-- The place of a set that the byte before its name tells. -/
inductive Place where
  | first
  | second
  | third
  deriving DecidableEq, Repr

/-- The place and the name that the bytes behind the escape byte give, if they give one. -/
def named? (d : Designated) (sequence : List Char) : Option (Place × Char × Bool) :=
  match sequence with
  | ['$', c] => some (.first, c, true)
  | ['(', c] => some (.first, c, false)
  | [')', c] => some (.second, c, false)
  | ['.', c] => if d.hasThird then some (.third, c, false) else none
  | ['$', '(', c] => some (.first, c, true)
  | ['$', ')', c] => some (.second, c, true)
  | [_, _, c, '$', 'B'] =>
    if c.toNat = escape && d ≠ .korean then some (.first, 'B', true) else none
  | _ => none

/-- The sets in use after a set has got a place. -/
def Sets.put (s : Sets) (c : Charset) : Place → Sets
  | .first => { s with first := c }
  | .second => { s with second := c }
  | .third => { s with third := c }

/-- An escape sequence. -/
def sequenceStep (d : Designated) (s : Sets) (rest : List UInt8) : Step Sets :=
  match width (d ≠ .korean) 1 0 rest with
  | .cutOff => .cutOff 1 rest
  | .unending => .illegal 1
  | .found width =>
    let sequence := (rest.take (width - 1)).map fun b => Char.ofNat b.toNat
    match named? d sequence with
    | none => .illegal width
    | some (place, mark) =>
      match d.charsets.find? (·.mark = mark) with
      | none => .illegal width
      | some c => .taken width (s.put c place)

/-- A character of the third set. -/
def thirdStep (s : Sets) (rest : List UInt8) : Step Sets :=
  match rest with
  | _ :: b :: _ =>
    match s.third.hasThird? b.toNat with
    | some true => .taken 3 s
    | some false => .illegal 3
    | none => .stuck
  | _ => .cutOff 1 rest

/-- A character of the set that counts. -/
def characterStep (s : Sets) (n : Nat) (rest : List UInt8) : Step Sets :=
  let c := if s.isShifted then s.second else s.first
  if c = .ascii then .taken 1 s
  else if c.mark.2 then
    match rest with
    | [] => .cutOff 1 rest
    | cell :: _ => if c.hasPair n cell.toNat then .taken 2 s else .illegal 2
  else if c.hasSingle n then .taken 1 s else .illegal 1

/-- The bytes behind the escape byte that begin a sequence. -/
def openers : List Nat := [0x28, 0x29, 0x24, 0x2e, 0x26]

/-- What the bytes at one position are. -/
def step (d : Designated) (s : Sets) (b : UInt8) (rest : List UInt8) : Step Sets :=
  let n := b.toNat
  if s.isPassing then .taken 1 { s with isPassing := !isLast n }
  else if n = escape then
    match rest with
    | [] => .cutOff 1 rest
    | c :: _ =>
      if c.toNat ∈ openers then sequenceStep d s rest
      else if d.hasThird && c.toNat = 0x4e then thirdStep s rest
      else .taken 1 { s with isPassing := true }
  else if n = 0x0f && d.hasShifts then .taken 1 { s with isShifted := false }
  else if n = 0x0e && d.hasShifts then .taken 1 { s with isShifted := true }
  else if n = 0x0a then .taken 1 { s with isShifted := false }
  else if n < 0x20 then .taken 1 s
  else if 0x80 ≤ n then .illegal 1
  else characterStep s n rest

/-- The first place where bytes do not follow an encoding. -/
def fault? (d : Designated) (bytes : List UInt8) : Option Unread :=
  firstFault? d.codec d.step {} 0 0 bytes

end Designated

/-! ### Tildes -/

namespace Tilde

/-- What the bytes at one position are, between braces behind tildes or outside. -/
def step (isInside : Bool) (b : UInt8) (rest : List UInt8) : Step Bool :=
  if b.toNat = 0x7e then
    match rest with
    | [] => .cutOff 1 rest
    | c :: _ =>
      if isInside then
        if c.toNat = 0x7d then .taken 2 false else .illegal 1
      else if c.toNat = 0x7e ∨ c.toNat = 0x0a then .taken 2 false
      else if c.toNat = 0x7b then .taken 2 true
      else .illegal 1
  else if 0x80 ≤ b.toNat then .illegal 1
  else if isInside then
    match rest with
    | [] => .cutOff 1 rest
    | c :: _ => if gb2312.has b.toNat c.toNat then .taken 2 true else .illegal 1
  else .taken 1 false

/-- The first place where bytes do not follow the encoding. -/
def fault? (bytes : List UInt8) : Option Unread :=
  firstFault? "hz" step false 0 0 bytes

end Tilde
end BorrowGraph.Encoding
