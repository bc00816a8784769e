/-
Which local owns which region.

Each local has at most one region.  That no region has two owners is checked only when the
owner of a region is asked for.
-/
import BorrowGraph.Assoc
import BorrowGraph.Atom
import BorrowGraph.Diagnostic
import BorrowGraph.Facts

namespace BorrowGraph

/-- The regions of locals, in the order in which the locals were first met. -/
structure Owners where
  regions : List (Local × Region)
  deriving DecidableEq, Repr

namespace Owners

/-- No local has a region. -/
def empty : Owners := ⟨[]⟩

/-- Give a local a region, replacing the one it had. -/
def insert (o : Owners) (n : Local) (r : Region) : Owners :=
  ⟨Assoc.put n r o.regions⟩

/-- The table of pairs given one after the other. -/
def ofPairs (pairs : List (Local × Region)) : Owners :=
  ⟨Assoc.ofPairs pairs⟩

/-- The region of a local. -/
def regionOf (o : Owners) (n : Local) : Option Region :=
  Assoc.get? n o.regions

/-- All owners of a region, in the order in which they were first met. -/
def ownersOf (o : Owners) (r : Region) : List Local :=
  o.regions.filterMap fun (n, s) => if s = r then some n else none

/-- The diagnostic for a region with two owners. -/
def sharedDiagnostic (r : Region) (first second : Local) : Diagnostic :=
  { kind := .consistency
    code := .duplicateRegionOwner
    text := "region is associated with more than one local"
    context :=
      [("region", Region.text r), ("locals", Local.text first ++ "," ++ Local.text second)] }

/-- How a region with two owners is refused.  The diagnostic names the region and both locals,
so that all three have to be short enough to be written. -/
def sharedFailure (r : Region) (first second : Local) : Failure :=
  if Decimal.fits r && Decimal.fits first && Decimal.fits second then
    .diagnostic (sharedDiagnostic r first second)
  else .fault .tooLargeToWrite

/-- The local that owns a region, if any. -/
def ownerOf (o : Owners) (r : Region) : Except Failure (Option Local) :=
  match o.ownersOf r with
  | [] => .ok none
  | [n] => .ok (some n)
  | first :: second :: _ => .error (sharedFailure r first second)

/-- The pairs of locals and regions in order. -/
def items (o : Owners) : List (Local × Region) :=
  o.regions.mergeSort Facts.pairLe

/-- The locals in order. -/
def locals (o : Owners) : List Local :=
  (o.regions.map Prod.fst).mergeSort fun a b => decide (a ≤ b)

/-- The table in one line. -/
def summary (o : Owners) : String :=
  "VariableRegions(\x7b" ++ ", ".intercalate
    (o.items.map fun (n, r) => Local.text n ++ ": " ++ Region.text r) ++ "\x7d)"

end Owners
end BorrowGraph
