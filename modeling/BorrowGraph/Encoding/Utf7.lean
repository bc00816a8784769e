/-
UTF-7: text in seven bits.

A plus sign begins a section of digits of six bits each, which make up units of sixteen bits.
A section ends at the first other byte; a minus sign there belongs to the section.
-/
import BorrowGraph.Encoding.Scan

namespace BorrowGraph.Encoding.Utf7

/-- The value of a digit of six bits. -/
def digit? (n : Nat) : Option Nat :=
  if 0x41 ≤ n ∧ n ≤ 0x5a then some (n - 0x41)
  else if 0x61 ≤ n ∧ n ≤ 0x7a then some (n - 0x61 + 26)
  else if 0x30 ≤ n ∧ n ≤ 0x39 then some (n - 0x30 + 52)
  else if n = 0x2b then some 62
  else if n = 0x2f then some 63
  else none

/-- A section that has begun. -/
structure Section where
  /-- The position of the plus sign. -/
  start : Nat
  /-- How many bits are left over from the units before. -/
  bits : Nat := 0
  /-- The number that they make. -/
  rest : Nat := 0
  /-- Whether the unit before was the first half of a pair. -/
  isHalf : Bool := false
  deriving DecidableEq, Repr

/-- A section with a further digit. -/
def Section.push (s : Section) (value : Nat) : Section :=
  let bits := s.bits + 6
  let number := s.rest * 64 + value
  if bits < 16 then { s with bits := bits, rest := number }
  else
    let unit := number / Nat.pow 2 (bits - 16)
    { s with
      bits := bits - 16
      rest := number % Nat.pow 2 (bits - 16)
      isHalf := 0xd800 ≤ unit && unit < 0xdc00 }

/-- The byte of the plus sign. -/
def plus : Nat := 0x2b

/-- The byte of the minus sign. -/
def minus : Nat := 0x2d

/-- The section that a byte outside of a section begins, if it begins one. -/
def begin? (pos : Nat) (b : UInt8) (bs : List UInt8) : Except Misread (Option Section) :=
  if b.toNat = plus then
    match bs with
    | [] => .ok (some { start := pos })
    | c :: _ =>
      if c.toNat = minus || (digit? c.toNat).isSome then .ok (some { start := pos })
      else .error ⟨"utf7", b, pos, 2, "ill-formed sequence"⟩
  else if b.toNat < 0x80 then .ok none
  else .error ⟨"utf7", b, pos, 1, "unexpected special character"⟩

/-- What is wrong with a section that ends here. -/
def Section.problem? (s : Section) : Option String :=
  if 6 ≤ s.bits then some "partial character in shift sequence"
  else if 0 < s.bits ∧ s.rest ≠ 0 then some "non-zero padding bits in shift sequence"
  else none

/-- The first fault from a position on. -/
def faultFrom? (inside : Option Section) (pos : Nat) : List UInt8 → Option Misread
  | [] =>
    match inside with
    | none => none
    | some s =>
      if s.isHalf || s.problem?.isSome then
        some ⟨"utf7", UInt8.ofNat plus, s.start, pos - s.start, "unterminated shift sequence"⟩
      else none
  | b :: bs =>
    let outside : Option Misread :=
      match begin? pos b bs with
      | .ok next => faultFrom? next (pos + 1) bs
      | .error e => some e
    match inside with
    | none => outside
    | some s =>
      match digit? b.toNat with
      | some value => faultFrom? (some (s.push value)) (pos + 1) bs
      | none =>
        match s.problem? with
        | some reason => some ⟨"utf7", UInt8.ofNat plus, s.start, pos + 1 - s.start, reason⟩
        | none => if b.toNat = minus then faultFrom? none (pos + 1) bs else outside

/-- The first place where bytes are not UTF-7. -/
def fault? (bytes : List UInt8) : Option Misread :=
  faultFrom? none 0 bytes

end BorrowGraph.Encoding.Utf7
