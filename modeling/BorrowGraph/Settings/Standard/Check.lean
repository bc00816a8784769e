/-
Reading single values.

A text is a text, and a truth value may also be a word or a number for one.  A value that is
refused is refused with a complaint.
-/
import BorrowGraph.Text.Case
import BorrowGraph.Value

namespace BorrowGraph.Settings.Standard

/-- Why a value is refused. -/
inductive Complaint where
  | notText
  | notBool
  | unclearBool
  deriving DecidableEq, Repr

def Complaint.text : Complaint → String
  | .notText => "Input should be a valid string"
  | .notBool => "Input should be a valid boolean"
  | .unclearBool => "Input should be a valid boolean, unable to interpret input"

def readText : Value → Except Complaint String
  | .text s => .ok s
  | _ => .error .notText

def readOptionalText : Value → Except Complaint (Option String)
  | .null => .ok none
  | .text s => .ok (some s)
  | _ => .error .notText

def trueWords : List String := ["1", "t", "y", "on", "yes", "true"]

def falseWords : List String := ["0", "f", "n", "no", "off", "false"]

/-- The truth value of a number. -/
def boolOfInt (n : Int) : Except Complaint Bool :=
  if n = 0 then .ok false else if n = 1 then .ok true else .error .unclearBool

/-- One past the greatest number of sixty-three bits. -/
def intBound : Int := Int.pow 2 63

def readBool : Value → Except Complaint Bool
  | .bool b => .ok b
  | .text s =>
    if Text.lower s ∈ trueWords then .ok true
    else if Text.lower s ∈ falseWords then .ok false
    else .error .unclearBool
  | .int n => if -intBound ≤ n ∧ n < intBound then boolOfInt n else .error .notBool
  | .float x =>
    match x.truncate? with
    | some n =>
      if x.isWhole ∧ -intBound < n ∧ n < intBound then boolOfInt n else .error .notBool
    | none => .error .notBool
  | _ => .error .notBool

end BorrowGraph.Settings.Standard
