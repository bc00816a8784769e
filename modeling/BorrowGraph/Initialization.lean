/-
Which places are definitely initialized.

The analysis comes with the bundle as two tables: the places initialized on entry to a block,
and after the statement at a location.  What the tables do not mention has no initialized
places.
-/
import BorrowGraph.Point
import BorrowGraph.Value.Access

namespace BorrowGraph

/-- The tables of initialized places. -/
structure Initialization where
  before : List (Int × List String) := []
  after : List (Location × List String) := []
  deriving DecidableEq, Repr

namespace Initialization

/-- Nothing is known to be initialized. -/
def none : Initialization := {}

/-- The places initialized on entry to a block. -/
def beforeBlock (i : Initialization) (block : Int) : List String :=
  (Assoc.get? block i.before).getD []

/-- The places initialized after the statement at a location. -/
def afterStatement (i : Initialization) (l : Location) : List String :=
  (Assoc.get? l i.after).getD []

/-- A set of places. -/
def readPlaces (v : Value) : Except Fault (List String) := do
  return ((← v.elements).map Value.plain).eraseDups

/-- Read the rows of a table, a later row for a key replacing an earlier one. -/
def readRows {κ : Type} [DecidableEq κ] (readKey : String → Except Fault κ) :
    List (String × Value) → Except Fault (List (κ × List String))
  | rows => do
    let pairs ← rows.mapM fun (k, v) => do return (← readKey k, ← readPlaces v)
    return Assoc.ofPairs pairs

/-- The rows of an optional table. -/
def rowsOf (v : Value) (name : String) : Except Fault (List (String × Value)) := do
  match ← v.field? name with
  | Option.none => return []
  | some w => w.fields

/-- Read both tables. -/
def read (v : Value) : Except Fault Initialization := do
  let before ← readRows (fun k => (Value.text k).toInteger) (← rowsOf v "before_block")
  let after ← readRows Location.read (← rowsOf v "after_statement")
  return ⟨before, after⟩

end Initialization
end BorrowGraph
