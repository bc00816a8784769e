/-
Double precision numbers, with exact arithmetic.

A finite number is a sign, a mantissa below `2 ^ 53` and a binary exponent of at least `-1074`; the
mantissa is at least `2 ^ 52` unless the exponent is the least one.  Reading rounds a decimal to the
nearest such number, ties going to the even mantissa.  Writing uses the fewest digits that read
back, and of those the decimal nearest to the number.  All of it is integer arithmetic.
-/
import BorrowGraph.Number.Decimal

namespace BorrowGraph

/-- A double precision number. -/
inductive Binary64 where
  | nan
  | infinite (negative : Bool)
  /-- The number `± mantissa * 2 ^ exponent`. -/
  | finite (negative : Bool) (mantissa : Nat) (exponent : Int)
  deriving DecidableEq, Repr

namespace Binary64

/-- The least binary exponent. -/
def minExponent : Int := -1074

/-- The greatest binary exponent of a finite number. -/
def maxExponent : Int := 971

/-- Zero with a sign. -/
def zero (negative : Bool) : Binary64 := .finite negative 0 minExponent

/-- `num / den * 2 ^ (-shift)` as a fraction of natural numbers. -/
def scaled (num den : Nat) (shift : Int) : Nat × Nat :=
  if 0 ≤ shift then (num, den * Nat.pow 2 shift.toNat) else (num * Nat.pow 2 (-shift).toNat, den)

/-- The nearest whole number to a fraction, ties going to the even one. -/
def roundHalfEven (num den : Nat) : Nat :=
  let q := num / den
  let r := num % den
  if 2 * r < den then q else if den < 2 * r then q + 1 else if q % 2 = 0 then q else q + 1

/-- The double nearest to the positive fraction `num / den`. -/
def ofRatio (negative : Bool) (num den : Nat) : Binary64 :=
  if num = 0 then zero negative
  else
    let estimate : Int := (Nat.log2 num : Int) - (Nat.log2 den : Int) - 52
    let (n, d) := scaled num den estimate
    let normal := if n < d * Nat.pow 2 52 then estimate - 1 else estimate
    let exponent := max minExponent normal
    let (n, d) := scaled num den exponent
    let mantissa := roundHalfEven n d
    let (mantissa, exponent) :=
      if mantissa = Nat.pow 2 53 then (Nat.pow 2 52, exponent + 1) else (mantissa, exponent)
    if maxExponent < exponent then .infinite negative else .finite negative mantissa exponent

/-- The double nearest to `digits * 10 ^ exponent`.  Decimals far outside the range are settled by
their count of digits alone. -/
def ofDecimal (negative : Bool) (digits : Nat) (exponent : Int) : Binary64 :=
  if digits = 0 then zero negative
  else
    let magnitude : Int := (Nat.log2 digits : Int) * 30103 / 100000 + exponent
    if 320 < magnitude then .infinite negative
    else if magnitude < -400 then zero negative
    else if 0 ≤ exponent then ofRatio negative (digits * Nat.pow 10 exponent.toNat) 1
    else ofRatio negative digits (Nat.pow 10 (-exponent).toNat)

/-- The magnitude of a finite number as a fraction. -/
def ratio (mantissa : Nat) (exponent : Int) : Nat × Nat :=
  if 0 ≤ exponent then (mantissa * Nat.pow 2 exponent.toNat, 1)
  else (mantissa, Nat.pow 2 (-exponent).toNat)

/-- The number with its fraction cut off; `none` when it is not finite. -/
def truncate? : Binary64 → Option Int
  | .finite negative mantissa exponent =>
    let (n, d) := ratio mantissa exponent
    let whole : Int := (n / d : Nat)
    some (if negative then -whole else whole)
  | _ => none

/-- Whether a finite number has no fraction. -/
def isWhole : Binary64 → Bool
  | .finite _ mantissa exponent =>
    let (n, d) := ratio mantissa exponent
    n % d == 0
  | _ => false

/-- Whether the number is a zero of either sign. -/
def isZero : Binary64 → Bool
  | .finite _ mantissa _ => mantissa == 0
  | _ => false

/-- Whether the number is greater than zero. -/
def isPositive : Binary64 → Bool
  | .nan => false
  | .infinite negative => !negative
  | .finite negative mantissa _ => !negative && 0 < mantissa

/-! ### Shortest decimals -/

/-- The open interval of magnitudes that round to a number, as two numerators over one common
denominator, and the number's own numerator in the middle. -/
def interval (mantissa : Nat) (exponent : Int) : Nat × Nat × Nat × Nat :=
  let (n, d) := ratio (4 * mantissa) (exponent - 2)
  let unit := if 2 ≤ exponent then Nat.pow 2 (exponent - 2).toNat else 1
  let below := if mantissa = Nat.pow 2 52 && minExponent < exponent then unit else 2 * unit
  (n - below, n, n + 2 * unit, d)

/-- Whether `candidate * 10 ^ grid` reads back, given the interval over `den` and whether its ends
belong to it. -/
def readsBack (low high den : Nat) (closed : Bool) (candidate : Nat) (grid : Int) : Bool :=
  let (c, d) :=
    if 0 ≤ grid then (candidate * Nat.pow 10 grid.toNat * den, 1)
    else (candidate * den, Nat.pow 10 (-grid).toNat)
  if closed then low * d ≤ c && c ≤ high * d else low * d < c && c < high * d

/-- The least `e` with `num / den < 10 ^ e`, searched upwards from `e` for at most `fuel` steps. -/
def decimalPlaces (num den : Nat) (e : Int) : Nat → Int
  | 0 => e
  | fuel + 1 =>
    let small := if 0 ≤ e then num < den * Nat.pow 10 e.toNat else num * Nat.pow 10 (-e).toNat < den
    if small then e else decimalPlaces num den (e + 1) fuel

/-- The first grid, from coarse to fine, on which a neighbour of the number reads back; the nearer
neighbour wins, and the even one on a tie. -/
def shortestFrom (low mid high den : Nat) (closed : Bool) (places : Int) (digits : Nat) :
    Nat → Nat × Int
  | 0 => (0, 0)
  | fuel + 1 =>
    let grid := places - digits
    let (n, d) :=
      if 0 ≤ grid then (mid, den * Nat.pow 10 grid.toNat) else (mid * Nat.pow 10 (-grid).toNat, den)
    let down := n / d
    let up := down + 1
    let downOk := 0 < down && readsBack low high den closed down grid
    let upOk := readsBack low high den closed up grid
    if downOk && upOk then
      (roundHalfEven n d, grid)
    else if downOk then (down, grid)
    else if upOk then (up, grid)
    else shortestFrom low mid high den closed places (digits + 1) fuel

/-- The shortest decimal `digits * 10 ^ exponent` that reads back as a positive finite number. -/
def shortest (mantissa : Nat) (exponent : Int) : Nat × Int :=
  let (low, mid, high, den) := interval mantissa exponent
  let start : Int := ((Nat.log2 mid : Int) - (Nat.log2 den : Int)) * 30103 / 100000 - 2
  let places := decimalPlaces mid den start 8
  shortestFrom low mid high den (mantissa % 2 == 0) places 1 18

/-! ### Text -/

/-- Digits with the point after the first `places` of them; zeros fill both sides. -/
def positional (digits : List Char) (places : Int) : List Char :=
  if places ≤ 0 then '0' :: '.' :: (List.replicate (-places).toNat '0' ++ digits)
  else if digits.length ≤ places.toNat then
    digits ++ List.replicate (places.toNat - digits.length) '0' ++ ['.', '0']
  else digits.take places.toNat ++ '.' :: digits.drop places.toNat

/-- One digit before the point and a signed power of ten of at least two digits. -/
def scientific (digits : List Char) (power : Int) : List Char :=
  let lead := match digits with
    | [] => []
    | [d] => [d]
    | d :: rest => d :: '.' :: rest
  let sign := if power < 0 then '-' else '+'
  lead ++ 'e' :: sign :: (Decimal.padded 2 power.natAbs).toList

/-- The digits of a decimal without its trailing zeros. -/
def significant (n : Nat) : List Char :=
  ((Nat.toDigits 10 n).reverse.dropWhile (· == '0')).reverse

/-- The text of a number: positional while the power of ten of the first digit is from `-4` to
`15`, scientific beyond; whole numbers keep a zero behind the point. -/
def text : Binary64 → String
  | .nan => "nan"
  | .infinite negative => if negative then "-inf" else "inf"
  | .finite negative mantissa exponent =>
    let magnitude :=
      if mantissa = 0 then ['0', '.', '0']
      else
        let (n, e) := shortest mantissa exponent
        let places : Int := (Nat.toDigits 10 n).length + e
        let digits := significant n
        if -4 < places && places ≤ 16 then positional digits places
        else scientific digits (places - 1)
    String.ofList (if negative then '-' :: magnitude else magnitude)

end Binary64
end BorrowGraph
