/-
Punycode: text as its ASCII characters and the places of the others.

Behind the last dash stand numbers to the base 36, each of which tells how far the next place
and character are from those before.  How many digits a number has depends on the numbers
before it.
-/
import BorrowGraph.Encoding.Scan

namespace BorrowGraph.Encoding.Punycode

/-- Why a text is not punycode. -/
inductive Problem where
  | notAscii (error : Misread)
  /-- The last number is not complete. -/
  | incomplete
  /-- A character is not a digit. -/
  | badDigit (c : Char)
  /-- There is no character of this number. -/
  | beyond (n : Nat)
  deriving DecidableEq, Repr

def Problem.message : Problem → String
  | .notAscii e => e.message
  | .incomplete => "incomplete punicode string"
  | .badDigit c => "Invalid extended code point '" ++ String.ofList [c] ++ "'"
  | .beyond n => "Invalid character U+" ++ String.ofList (Nat.toDigits 16 n)

/-- The value of a digit. -/
def digit? (c : Char) : Option Nat :=
  if 'A' ≤ c ∧ c ≤ 'Z' then some (c.toNat - 'A'.toNat)
  else if '0' ≤ c ∧ c ≤ '9' then some (c.toNat - '0'.toNat + 26)
  else none

/-- The least digit at the `j`-th place that is not the last. -/
def threshold (j bias : Nat) : Nat :=
  min 26 (max 1 (36 * (j + 1) - bias))

/-- How often a number must be divided by 35 to be at most 455, and the quotient. -/
def divisions (n : Nat) : Nat × Nat :=
  if 455 < n then
    let (count, quotient) := divisions (n / 35)
    (count + 1, quotient)
  else (0, n)
termination_by n
decreasing_by exact Nat.div_lt_self (by omega) (by omega)

/-- The bias after a number, when there are so many characters. -/
def adapt (delta : Nat) (isFirst : Bool) (count : Nat) : Nat :=
  let delta := if isFirst then delta / 700 else delta / 2
  let (times, quotient) := divisions (delta + delta / count)
  36 * times + 36 * quotient / (quotient + 38)

/-! ### Reading -/

/-- What has been read. -/
structure Progress where
  /-- The code points. -/
  points : List Nat
  point : Nat := 0x80
  /-- The place behind the last code point that was put in. -/
  place : Nat := 0
  bias : Nat := 72
  isFirst : Bool := true
  /-- Of the number that is being read: its digits so far, their value, and the weight of the
  next one. -/
  digits : Nat := 0
  value : Nat := 0
  weight : Nat := 1
  deriving DecidableEq, Repr

/-- Put in the code point that a number tells. -/
def Progress.insert (p : Progress) (delta : Nat) : Except Problem Progress :=
  let count := p.points.length + 1
  let place := p.place + delta
  let point := p.point + place / count
  if 0x10ffff < point then .error (.beyond point)
  else .ok {
    points := p.points.take (place % count) ++ point :: p.points.drop (place % count)
    point := point
    place := place % count + 1
    bias := adapt delta p.isFirst count
    isFirst := false }

/-- Read the numbers. -/
def readNumbers (p : Progress) : List Char → Except Problem (List Nat)
  | [] => if p.digits = 0 then .ok p.points else .error .incomplete
  | c :: cs =>
    match digit? c with
    | none => .error (.badDigit c)
    | some d =>
      let t := threshold p.digits p.bias
      let value := p.value + d * p.weight
      if d < t then
        match p.insert value with
        | .ok p => readNumbers p cs
        | .error e => .error e
      else
        readNumbers
          { p with digits := p.digits + 1, value := value, weight := p.weight * (36 - t) } cs

/-- The characters of ASCII bytes. -/
def asciiOf (bytes : List UInt8) : Except Problem (List Char) :=
  match notAscii? bytes with
  | some e => .error (.notAscii e)
  | none => .ok (bytes.map fun b => Char.ofNat b.toNat)

/-- Read the ASCII characters before the last dash and the numbers behind it. -/
def decode (bytes : List UInt8) : Except Problem (List Nat) := do
  let behind := (bytes.reverse.takeWhile fun b => b.toNat ≠ 0x2d).reverse
  let base ← asciiOf ((bytes.take (bytes.length - behind.length)).dropLast)
  let numbers ← asciiOf behind
  readNumbers { points := base.map Char.toNat } (numbers.map Char.toUpper)

/-- What is wrong with bytes that are not punycode. -/
def problem? (bytes : List UInt8) : Option Problem :=
  match decode bytes with
  | .ok _ => none
  | .error e => some e

/-! ### Writing -/

/-- The digit of a value. -/
def digitOf (d : Nat) : Char :=
  if d < 26 then Char.ofNat (d + 'a'.toNat) else Char.ofNat (d - 26 + '0'.toNat)

theorem one_le_threshold (j bias : Nat) : 1 ≤ threshold j bias := by
  unfold threshold
  omega

/-- The digits of a number from the `j`-th place on. -/
def numberFrom (j bias n : Nat) : List Char :=
  let t := threshold j bias
  if n < t then [digitOf n]
  else digitOf (t + (n - t) % (36 - t)) :: numberFrom (j + 1) bias ((n - t) / (36 - t))
termination_by n
decreasing_by
  have := one_le_threshold j bias
  calc (n - threshold j bias) / (36 - threshold j bias)
      ≤ n - threshold j bias := Nat.div_le_self _ _
    _ < n := by omega

/-- What has been written. -/
structure Draft where
  text : List Char := []
  delta : Nat := 0
  bias : Nat := 72
  /-- How many code points have been written, and whether none of them has a number. -/
  count : Nat
  isFirst : Bool := true
  deriving DecidableEq, Repr

/-- Pass a code point on the way to the next place of `point`. -/
def Draft.pass (point : Nat) (d : Draft) (c : Nat) : Draft :=
  if c < point then { d with delta := d.delta + 1 }
  else if c = point then {
    text := d.text ++ numberFrom 0 d.bias d.delta
    delta := 0
    bias := adapt d.delta d.isFirst (d.count + 1)
    count := d.count + 1
    isFirst := false }
  else d

/-- Write the numbers of code points in increasing order, from `next` on. -/
def writeNumbers (points : List Nat) (next : Nat) (d : Draft) : List Nat → Draft
  | [] => d
  | point :: rest =>
    let d := { d with delta := d.delta + (point - next) * (d.count + 1) }
    let d := points.foldl (Draft.pass point) d
    writeNumbers points (point + 1) { d with delta := d.delta + 1 } rest

/-- The punycode of code points. -/
def encode (points : List Nat) : List Char :=
  let base := points.filter (· < 0x80)
  let others := (points.filter (0x80 ≤ ·)).mergeSort.eraseDups
  let numbers := (writeNumbers points 0x80 { count := base.length } others).text
  if base.isEmpty then numbers else base.map Char.ofNat ++ '-' :: numbers

end BorrowGraph.Encoding.Punycode
