/-
Labels: the parts of a host name between points.

A label is ASCII.  Behind a mark it is punycode for other text, which must lead back to the label.
-/
import BorrowGraph.Encoding.Punycode
import BorrowGraph.Text.Case
import BorrowGraph.Text.Quoted

namespace BorrowGraph.Encoding.Label

/-- Why a label is none. -/
inductive Problem where
  | notPunycode (problem : Punycode.Problem)
  /-- The text has a character that a label cannot have. -/
  | badPoint (point : Nat)
  /-- The text is empty or makes a label that is too long. -/
  | badLength
  /-- The text leads to another label. -/
  | changed (label other : String)
  deriving DecidableEq, Repr

/-- A code point in quotes. -/
def quotePoint (point : Nat) : String :=
  if 0xd800 ≤ point ∧ point ≤ 0xdfff then
    "'\\u" ++ String.ofList (Text.hexDigits 4 point) ++ "'"
  else Text.quote (String.ofList [Char.ofNat point])

def Problem.message : Problem → String
  | .notPunycode p => "decoding with 'punycode' codec failed (UnicodeError: " ++ p.message ++ ")"
  | .badPoint point => "Invalid character " ++ quotePoint point
  | .badLength => "label empty or too long"
  | .changed label other =>
    "('IDNA does not round-trip', b" ++ Text.quote label ++ ", b" ++ Text.quote other ++ ")"

/-- The mark before punycode. -/
def mark : String := "xn--"

/-- The code points that a label cannot have: control characters, surrogates and those without
a meaning of their own. -/
def badPoints : List (Nat × Nat) := [
  (0x80, 0x9f), (0xd800, 0xf8ff), (0xfdd0, 0xfdef), (0xfff9, 0xffff), (0xf0000, 0x10ffff)]

/-- A code point in small letters. -/
def small (point : Nat) : List Nat :=
  if 0xd800 ≤ point ∧ point ≤ 0xdfff then [point]
  else (Text.lower (String.ofList [Char.ofNat point])).toList.map Char.toNat

/-- A label, if it has a length that labels have. -/
def ofText (text : String) : Except Problem String :=
  if 0 < text.length ∧ text.length < 64 then .ok text else .error .badLength

/-- The label for a text. -/
def ofPoints (points : List Nat) : Except Problem String :=
  let asText (points : List Nat) : String := String.ofList (points.map Char.ofNat)
  if points.all (· < 0x80) then ofText (asText points)
  else
    let points := points.flatMap small
    match points.find? fun n => badPoints.any fun (lo, hi) => lo ≤ n && n ≤ hi with
    | some point => .error (.badPoint point)
    | none =>
      if points.all (· < 0x80) then ofText (asText points)
      else ofText (mark ++ String.ofList (Punycode.encode points))

/-- Read a label. -/
def check (label : List UInt8) : Except Problem Unit :=
  let text := String.ofList (label.map fun b => Char.ofNat b.toNat)
  if mark.toList.isPrefixOf text.toList then do
    let points ← (Punycode.decode (label.drop mark.length)).mapError .notPunycode
    let other ← ofPoints points
    if Text.lower text = other then .ok () else .error (.changed text other)
  else .ok ()

/-- The parts between points. -/
def partsOf : List UInt8 → List (List UInt8)
  | [] => [[]]
  | b :: bs =>
    match partsOf bs with
    | part :: rest => if b.toNat = 0x2e then [] :: part :: rest else (b :: part) :: rest
    | [] => [[b]]

/-- What is wrong with the first label that is none. -/
def problem? (bytes : List UInt8) : Option Problem :=
  match (partsOf bytes).forM check with
  | .ok () => none
  | .error e => some e

end BorrowGraph.Encoding.Label
