/-
Regions, loans and locals.

All three are numbers, and each has a spelling: fixed marks around runs of digits.  A spelling
is described by its pieces, so that all spellings are read by one function; a single line end
may follow.
-/
import BorrowGraph.Fault
import BorrowGraph.Text.Split

namespace BorrowGraph

/-- A lifetime, by its number. -/
abbrev Region := Int

/-- A borrow, by its number. -/
abbrev Loan := Int

/-- A local variable of a body, by its number. -/
abbrev Local := Int

namespace Spelling

/-- A piece of a spelling. -/
inductive Piece where
  | mark (text : String)
  | digits
  deriving DecidableEq, Repr

/-- The runs of digits of a text that is spelled in the given pieces. -/
def scan : List Piece → List Char → Option (List (List Char))
  | [], rest => if rest = [] ∨ rest = ['\n'] then some [] else none
  | .mark m :: pieces, cs => (Text.stripStart? m.toList cs).bind (scan pieces)
  | .digits :: pieces, cs =>
    let run := cs.takeWhile Text.isDigit
    if run.isEmpty then none
    else (scan pieces (cs.dropWhile Text.isDigit)).map (run :: ·)

/-- The number that a run of digits stands for. -/
def number (run : List Char) : Except Fault Int :=
  match Decimal.readDigits run with
  | .ok n => .ok n
  | .error e => .error (Fault.ofDecimal run e)

/-- Read an atom that is spelled with one number. -/
def readOne (kind : AtomKind) (pieces : List Piece) (cs : List Char) (text : String) :
    Except Fault Int :=
  match scan pieces cs with
  | some [run] => number run
  | _ => .error (.notAnAtom kind text)

end Spelling

/-! ### Regions -/

namespace Region

def pieces : List Spelling.Piece := [.mark "'_#", .digits, .mark "r"]

def read (s : String) : Except Fault Region :=
  Spelling.readOne .region pieces s.toList s

def text (r : Region) : String :=
  "'_#" ++ Decimal.text r ++ "r"

end Region

/-! ### Loans -/

namespace Loan

def pieces : List Spelling.Piece := [.mark "bw", .digits]

def read (s : String) : Except Fault Loan :=
  Spelling.readOne .loan pieces s.toList s

def text (l : Loan) : String :=
  "bw" ++ Decimal.text l

end Loan

/-! ### Locals -/

namespace Local

def pieces : List Spelling.Piece := [.mark "_", .digits]

/-- Read a local; blanks around it do not matter. -/
def read (s : String) : Except Fault Local :=
  Spelling.readOne .local pieces (Text.trim s.toList) s

def text (n : Local) : String :=
  "_" ++ Decimal.text n

end Local
end BorrowGraph
