/-
Whole numbers in decimal notation.

Numbers are unbounded, but a number is read from or written as text only up to a fixed count of
digits.  Spelled numbers may carry a sign, surrounding blanks and single underscores between
digits, and use the digits of any script.
-/
import BorrowGraph.Text.Blank
import BorrowGraph.Text.Digit

namespace BorrowGraph.Decimal

/-- The greatest count of digits that a number may have as text. -/
def digitLimit : Nat := 4300

/-- Why a text is not read as a whole number. -/
inductive Problem where
  /-- The text has this many digits, more than the limit. -/
  | tooLong (digits : Nat)
  /-- The text does not spell a whole number. -/
  | malformed
  deriving DecidableEq, Repr

/-- Read a run of digits, checking only its length. -/
def readDigits (ds : List Char) : Except Problem Nat :=
  if ds.length ≤ digitLimit then .ok (Text.digitsValue ds) else .error (.tooLong ds.length)

/-- Digits and the underscores between them, up to the first other character.  `last` is the
character read before; a lone underscore at the end or a doubled one makes the run malformed. -/
def digitRun (last : Char) : List Char → Option (List Char × List Char)
  | [] => if last = '_' then none else some ([], [])
  | c :: cs =>
    if c = '_' then if last = '_' then none else digitRun '_' cs
    else if Text.isDigit c then (digitRun c cs).map fun (ds, rest) => (c :: ds, rest)
    else if last = '_' then none else some ([], c :: cs)

/-- Read an unsigned number.  The count of digits is checked before what follows them. -/
def readUnsigned (cs : List Char) : Except Problem Nat :=
  match digitRun '_' cs with
  | none => .error .malformed
  | some (ds, rest) => do
    let n ← readDigits ds
    if rest.isEmpty then .ok n else .error .malformed

/-- The blanks that may surround a spelled number; the information separators are not among
them. -/
def isMargin (c : Char) : Bool :=
  Text.isAsciiBlank c || (0x7f ≤ c.toNat && Text.isBlank c)

/-- Read a spelled whole number. -/
def readInteger (cs : List Char) : Except Problem Int :=
  match Text.trimBy isMargin cs with
  | '-' :: ds => (readUnsigned ds).map fun n => -(n : Int)
  | '+' :: ds => (readUnsigned ds).map fun n => (n : Int)
  | ds => (readUnsigned ds).map fun n => (n : Int)

/-- The decimal text of a number. -/
def text (n : Int) : String :=
  match n with
  | .ofNat k => Nat.repr k
  | .negSucc k => "-" ++ Nat.repr (k + 1)

/-- Whether a number is short enough to be written as text. -/
def fits (n : Int) : Bool :=
  (Nat.toDigits 10 n.natAbs).length ≤ digitLimit

theorem length_le_iff {n k : Nat} (hk : 0 < k) :
    (Nat.toDigits 10 n).length ≤ k ↔ n < Nat.pow 10 k :=
  Nat.length_toDigits_le_iff (by decide) hk

theorem fits_iff {n : Int} : fits n = true ↔ n.natAbs < Nat.pow 10 digitLimit := by
  rw [fits, decide_eq_true_iff]
  exact length_le_iff (by decide)

/-- The first number that is too long to be written. -/
def firstLong : Int :=
  Nat.pow 10 digitLimit

theorem firstLong_pos : 0 < firstLong := by
  have hpos : ∀ k, 0 < Nat.pow 10 k := fun k => Nat.pow_pos (by decide)
  exact Int.natCast_pos.mpr (hpos digitLimit)

theorem fits_firstLong : fits firstLong = false := by
  rw [← Bool.not_eq_true, fits_iff, firstLong, Int.natAbs_natCast]
  exact Nat.lt_irrefl _

theorem fits_neg (n : Int) : fits (-n) = fits n := by
  rw [fits, fits, Int.natAbs_neg]

/-- A natural number filled up with zeros on the left to at least `width` digits. -/
def padded (width n : Nat) : String :=
  let ds := Nat.repr n
  String.ofList (List.replicate (width - ds.length) '0') ++ ds

end BorrowGraph.Decimal
