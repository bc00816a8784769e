/-
Completion of the loan-creation facts.

The facts record a loan only where a reference is created.  Where a reference is moved, passed
to a call or received from one, only the outlives relation changes.  Completion issues fresh
loans at exactly the points that have outlives pairs of inner regions and no loan:

* at a call, one loan for the region of the local that receives the result, and one for each
  pair, into its first region;
* at an assignment, one loan into the second region of the greatest pair;
* anywhere else, none.

Loans are numbered from one past the greatest known loan on.  Main notions: `issuesAt`, what is
issued at a location; `Completion.run`, the whole pass, which keeps what it has issued when it
fails.
-/
import BorrowGraph.Assoc
import BorrowGraph.Body
import BorrowGraph.Facts
import BorrowGraph.Log
import BorrowGraph.Owners
import BorrowGraph.PointTable

namespace BorrowGraph

/-- The loans issued by completion, by their origin. -/
structure Completion where
  /-- Loans for moved references, in the order of issue. -/
  referenceMoves : List Loan := []
  /-- Loans for references passed to calls, in the order of issue. -/
  argumentMoves : List Loan := []
  /-- Loans for results of calls, with the receiving local. -/
  callResults : List (Loan × Local) := []
  deriving DecidableEq, Repr

namespace Completion

def logSource : String := "mir_dump.fake_facts"

/-- How many loans are listed. -/
def count (c : Completion) : Nat :=
  c.referenceMoves.length + c.argumentMoves.length + c.callResults.length

/-- The results of calls in order. -/
def sortedResults (c : Completion) : List (Loan × Local) :=
  c.callResults.mergeSort Facts.pairLe

/-! ### What is issued at a location -/

/-- Why a loan is issued. -/
inductive Origin where
  /-- A call puts its result into a local. -/
  | result (target : Local)
  /-- A reference is passed to a call; the second region of its pair. -/
  | argument (second : Region)
  /-- A reference is moved; the first region of its pair. -/
  | move (first : Region)
  deriving DecidableEq, Repr

/-- A loan to be issued into a region. -/
structure Issue where
  origin : Origin
  region : Region
  deriving DecidableEq, Repr

/-- The greatest of the pairs at a point. -/
def greatest? (pairs : List (Region × Region)) : Option (Region × Region) :=
  pairs.foldl (fun best pair =>
    match best with
    | none => some pair
    | some b => if Facts.pairLe b pair then some pair else some b) none

/-- The loan for the result of a call, if it goes to a local with a region. -/
def resultIssue (owners : Owners) (destination : Option Place) : List Issue :=
  match destination with
  | none => []
  | some place =>
    match owners.regionOf place.base with
    | none => []
    | some region => [⟨.result place.base, region⟩]

/-- The loans to be issued at a location of the body. -/
def issuesAt (body : Body) (owners : Owners) (l : Location) (pairs : List (Region × Region)) :
    Except Fault (List Issue) := do
  if ← body.isCall l then
    let destination ← body.callDestination l
    return resultIssue owners destination
      ++ pairs.map fun (r₁, r₂) => ⟨.argument r₂, r₁⟩
  else if ← body.isAssignment l then
    return (greatest? pairs).toList.map fun (r₁, r₂) => ⟨.move r₁, r₂⟩
  else return []

/-! ### Issuing -/

/-- A pass under way. -/
structure Pass where
  facts : Facts
  issued : Completion
  /-- The number of the next loan. -/
  next : Loan
  log : List LogEntry := []
  deriving Repr

/-- The pass with a debug entry. -/
def Pass.note (s : Pass) (message : String) : Pass :=
  { s with log := s.log ++ [⟨.debug, logSource, message⟩] }

/-- Record a loan under its origin. -/
def record (c : Completion) (loan : Loan) : Origin → Completion
  | .result target => { c with callResults := Assoc.put loan target c.callResults }
  | .argument _ => { c with argumentMoves := c.argumentMoves ++ [loan] }
  | .move _ => { c with referenceMoves := c.referenceMoves ++ [loan] }

/-- The entry logged for a loan. -/
def entry (l : Location) (loan : Loan) (i : Issue) : String :=
  let pair (r₁ r₂ : Region) : String :=
    Region.text r₁ ++ " " ++ Region.text r₂ ++ " " ++ l.text ++ " " ++ Loan.text loan
  match i.origin with
  | .result _ => "var_region = " ++ Region.text i.region ++ " loan = " ++ Loan.text loan
  | .argument second => "Adding call arg: " ++ pair i.region second
  | .move first => "Adding generic: " ++ pair first i.region

/-- The pass with one more loan, not yet logged. -/
def Pass.add (s : Pass) (point : PointIndex) (i : Issue) : Pass :=
  { s with
    facts := s.facts.insert .borrowRegion [i.region, s.next, point]
    issued := record s.issued s.next i.origin
    next := s.next + 1 }

/-- Issue a loan.  A loan whose number is too large to be written fails; the loan for a result
is then not recorded, all others are. -/
def Pass.issue (s : Pass) (l : Location) (point : PointIndex) (i : Issue) :
    Pass × Option Fault :=
  if Decimal.fits s.next then ((s.add point i).note (entry l s.next i), none)
  else
    match i.origin with
    | .result _ => ({ s with next := s.next + 1 }, some .tooLargeToWrite)
    | _ => (s.add point i, some .tooLargeToWrite)

/-- Issue several loans. -/
def Pass.issueAll (s : Pass) (l : Location) (point : PointIndex) :
    List Issue → Pass × Option Fault
  | [] => (s, none)
  | i :: rest =>
    match s.issue l point i with
    | (s, some f) => (s, some f)
    | (s, none) => s.issueAll l point rest

/-! ### The pass -/

/-- The diagnostic for a point that is not in the body. -/
def outsideDiagnostic (l : Location) : Diagnostic :=
  { kind := .consistency
    code := .unknownPoint
    text := "outlives fact refers to a location outside the body"
    context := [("location", l.text)] }

/-- The location of a point of the body. -/
def locationOf (table : PointTable) (body : Body) (point : PointIndex) :
    Except Diagnostic Location := do
  let l := (← table.resolve point).location
  if body.contains l then return l else throw (outsideDiagnostic l)

/-- The pairs of a point as they are logged. -/
def pairsText (pairs : List (Region × Region)) : String :=
  "[" ++ ", ".intercalate (pairs.map fun (r₁, r₂) =>
    "(" ++ Decimal.text r₁ ++ ", " ++ Decimal.text r₂ ++ ")") ++ "]"

/-- The entry logged when a call is met. -/
def callEntry (body : Body) (l : Location) (pairs : List (Region × Region)) : Option String :=
  match body.isCall l with
  | .ok true => some ("Adding for call destination at " ++ l.text ++ ": " ++ pairsText pairs)
  | _ => none

/-- Complete one point. -/
def Pass.completeAt (s : Pass) (table : PointTable) (body : Body) (owners : Owners)
    (point : PointIndex) (pairs : List (Region × Region)) : Pass × Option Failure :=
  match locationOf table body point with
  | .error d => (s, some (.diagnostic d))
  | .ok l =>
    match issuesAt body owners l pairs with
    | .error f => (s, some (.fault f))
    | .ok issues =>
      let s := ((callEntry body l pairs).map s.note).getD s
      match s.issueAll l point issues with
      | (s, some f) => (s, some (.fault f))
      | (s, none) => (s, none)

/-- Complete several points in turn. -/
def Pass.completeAll (s : Pass) (table : PointTable) (body : Body) (owners : Owners) :
    List (PointIndex × List (Region × Region)) → Pass × Option Failure
  | [] => (s, none)
  | (point, pairs) :: rest =>
    match s.completeAt table body owners point pairs with
    | (s, some e) => (s, some e)
    | (s, none) => s.completeAll table body owners rest

/-- The points to be completed, in order, with their pairs. -/
def eligible (f : Facts) : List (PointIndex × List (Region × Region)) :=
  (f.outlivesPoints.filter fun p => !f.loanPoints.contains p).map fun p => (p, f.outlivesAt p)

/-- The first loan that is issued. -/
def firstLoan (f : Facts) : Loan :=
  f.maxLoan?.getD 0 + 1

/-- The summary of a pass, as it is logged. -/
def summary (c : Completion) : String :=
  "Fact completion added " ++ Nat.repr c.count ++ " loan(s): "
    ++ Nat.repr c.referenceMoves.length ++ " reference move(s), "
    ++ Nat.repr c.argumentMoves.length ++ " argument move(s), "
    ++ Nat.repr c.callResults.length ++ " call destination(s)"

/-- Complete facts.  Results of calls are recorded together with those in `results`. -/
def run (f : Facts) (table : PointTable) (body : Body) (owners : Owners)
    (results : List (Loan × Local) := []) : Pass × Option Failure :=
  let start : Pass := ⟨f, { callResults := results }, firstLoan f, []⟩
  match start.completeAll table body owners (eligible f) with
  | (s, some e) => (s, some e)
  | (s, none) => ({ s with log := s.log ++ [⟨.info, logSource, s.issued.summary⟩] }, none)

end Completion
end BorrowGraph
