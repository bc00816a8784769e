/-
Borrow-check facts.

A fact is a tuple of one of seven relations over regions, loans and numbered points.  A store holds
each relation as a list without repetitions; the order of its tuples never matters, and whatever is
shown is sorted first.
-/
import BorrowGraph.Atom

namespace BorrowGraph

/-- The number of a point in a point table. -/
abbrev PointIndex := Int

/-- The relations, in the order in which they are read. -/
inductive Relation where
  /-- Creation of a loan at a point, into a region. -/
  | borrowRegion
  /-- Regions visible outside of the function. -/
  | universalRegion
  /-- At a point, the first region outlives the second. -/
  | outlives
  /-- A region is live at a point. -/
  | regionLiveAt
  /-- Control passes from one point to another. -/
  | cfgEdge
  /-- A loan ends at a point. -/
  | killed
  /-- What happens at a point is not allowed while a loan is live. -/
  | invalidates
  deriving DecidableEq, Repr

namespace Relation

def all : List Relation :=
  [.borrowRegion, .universalRegion, .outlives, .regionLiveAt, .cfgEdge, .killed, .invalidates]

def name : Relation → String
  | .borrowRegion => "borrow_region"
  | .universalRegion => "universal_region"
  | .outlives => "outlives"
  | .regionLiveAt => "region_live_at"
  | .cfgEdge => "cfg_edge"
  | .killed => "killed"
  | .invalidates => "invalidates"

end Relation

/-- The known facts of a function. -/
structure Facts where
  borrowRegion : List (Region × Loan × PointIndex) := []
  universalRegion : List Region := []
  outlives : List (Region × Region × PointIndex) := []
  regionLiveAt : List (Region × PointIndex) := []
  cfgEdge : List (PointIndex × PointIndex) := []
  killed : List (Loan × PointIndex) := []
  invalidates : List (PointIndex × Loan) := []
  deriving DecidableEq, Repr

namespace Facts

/-- No facts. -/
def empty : Facts := {}

/-- Add a tuple of a relation, given by its columns; columns that do not fit the relation add
nothing. -/
def insert (f : Facts) : Relation → List Int → Facts
  | .borrowRegion, [r, l, p] => { f with borrowRegion := f.borrowRegion.insert (r, l, p) }
  | .universalRegion, [r] => { f with universalRegion := f.universalRegion.insert r }
  | .outlives, [r₁, r₂, p] => { f with outlives := f.outlives.insert (r₁, r₂, p) }
  | .regionLiveAt, [r, p] => { f with regionLiveAt := f.regionLiveAt.insert (r, p) }
  | .cfgEdge, [p, q] => { f with cfgEdge := f.cfgEdge.insert (p, q) }
  | .killed, [l, p] => { f with killed := f.killed.insert (l, p) }
  | .invalidates, [p, l] => { f with invalidates := f.invalidates.insert (p, l) }
  | _, _ => f

/-- Add tuples of a relation. -/
def insertAll (f : Facts) (relation : Relation) (rows : List (List Int)) : Facts :=
  rows.foldl (fun f row => f.insert relation row) f

/-- The tuples of a relation by their columns. -/
def rows (f : Facts) : Relation → List (List Int)
  | .borrowRegion => f.borrowRegion.map fun (r, l, p) => [r, l, p]
  | .universalRegion => f.universalRegion.map fun r => [r]
  | .outlives => f.outlives.map fun (r₁, r₂, p) => [r₁, r₂, p]
  | .regionLiveAt => f.regionLiveAt.map fun (r, p) => [r, p]
  | .cfgEdge => f.cfgEdge.map fun (p, q) => [p, q]
  | .killed => f.killed.map fun (l, p) => [l, p]
  | .invalidates => f.invalidates.map fun (p, l) => [p, l]

/-! ### Order -/

/-- The order of rows: by the first column in which they differ. -/
def rowLe : List Int → List Int → Bool
  | [], _ => true
  | _ :: _, [] => false
  | a :: as, b :: bs => decide (a < b) || (a == b && rowLe as bs)

/-- The order of pairs. -/
def pairLe (a b : Int × Int) : Bool :=
  decide (a.1 < b.1) || (a.1 == b.1 && decide (a.2 ≤ b.2))

/-- The tuples of a relation in order. -/
def sortedRows (f : Facts) (relation : Relation) : List (List Int) :=
  (f.rows relation).mergeSort rowLe

/-! ### Queries -/

/-- The loans that some relation mentions. -/
def loans (f : Facts) : List Loan :=
  f.borrowRegion.map (fun (_, l, _) => l) ++ f.killed.map (fun (l, _) => l)
    ++ f.invalidates.map fun (_, l) => l

/-- The greatest loan that some relation mentions. -/
def maxLoan? (f : Facts) : Option Loan :=
  f.loans.max?

/-- The points at which loans are created. -/
def loanPoints (f : Facts) : List PointIndex :=
  (f.borrowRegion.map fun (_, _, p) => p).eraseDups

/-- The loans created at a point, with their regions. -/
def borrowsAt (f : Facts) (p : PointIndex) : List (Region × Loan) :=
  f.borrowRegion.filterMap fun (r, l, q) => if q = p then some (r, l) else none

/-- The regions live at a point. -/
def regionsAt (f : Facts) (p : PointIndex) : List Region :=
  f.regionLiveAt.filterMap fun (r, q) => if q = p then some r else none

/-- Both regions of a pair are inside the function. -/
def isInner (f : Facts) (r₁ r₂ : Region) : Bool :=
  !f.universalRegion.contains r₁ && !f.universalRegion.contains r₂

/-- The pairs of inner regions between which the outlives relation holds at a point, in order. -/
def outlivesAt (f : Facts) (p : PointIndex) : List (Region × Region) :=
  (f.outlives.filterMap fun (r₁, r₂, q) =>
    if q = p ∧ f.isInner r₁ r₂ then some (r₁, r₂) else none).mergeSort pairLe

/-- The points at which the outlives relation holds between inner regions, in order. -/
def outlivesPoints (f : Facts) : List PointIndex :=
  ((f.outlives.filterMap fun (r₁, r₂, q) =>
    if f.isInner r₁ r₂ then some q else none).eraseDups).mergeSort fun p q => decide (p ≤ q)

/-- The rows of a relation grouped by their last column: the groups in the order of that column, the
rows without it in order within a group. -/
def groupedByLast (f : Facts) (relation : Relation) : List (Int × List (List Int)) :=
  let rows := f.sortedRows relation
  let lasts := ((rows.filterMap List.getLast?).eraseDups).mergeSort fun a b => decide (a ≤ b)
  lasts.map fun last =>
    (last, (rows.filter fun row => row.getLast? = some last).map List.dropLast)

end Facts
end BorrowGraph
