/-
The analysis of one function.

An analysis puts together the completed facts of a function, what follows from them, the
numbering of its points and the regions of its locals.  It is made in three steps: all points
of the body are numbered and the numbering is frozen, the facts are completed, and the rules
are applied.
-/
import BorrowGraph.Completion
import BorrowGraph.Facts.Source
import BorrowGraph.Liveness
import BorrowGraph.Owners.Listing

namespace BorrowGraph

/-- The analysis of a function. -/
structure Analysis where
  /-- The facts, with the loans issued by completion. -/
  facts : Facts
  output : Liveness.Output
  points : PointTable
  owners : Owners
  completion : Completion
  deriving Repr

namespace Analysis

/-- Number points in turn. -/
def internAll (table : PointTable) : List Point → Except Failure PointTable
  | [] => .ok table
  | p :: rest =>
    match table.intern p with
    | (_, .error e) => .error e
    | (table, .ok _) => internAll table rest

/-- Both points of each location of a body. -/
def bodyPoints (body : Body) : List Point :=
  body.locations.flatMap fun l => [⟨l, .start⟩, ⟨l, .mid⟩]

/-- Number all points of a body and freeze the numbering. -/
def numberPoints (table : PointTable) (body : Body) : Except Failure PointTable := do
  return (← internAll table (bodyPoints body)).freeze

/-- Analyse facts. -/
def ofFacts {σ : Type} (body : Body) (store : FactStore) (owners : Owners)
    (solver : Solver := .default) : Task σ Analysis := do
  let points ← Task.ofExcept (numberPoints store.points body)
  let (pass, failure) := Completion.run store.facts points body owners
  pass.log.forM Task.note
  match failure with
  | some e => throw e
  | none =>
    let solution := solver pass.facts
    solution.log.forM Task.note
    let output ← Task.ofExcept (solution.result.mapError .fault)
    return ⟨pass.facts, output, points, owners, pass.issued⟩

/-- Read the facts and the listing of a function and analyse them. -/
def load {σ : Type} (files : FileTree) (body : Body) (factsPath listingPath : Path)
    (solver : Solver := .default) : Task σ Analysis := do
  let ((), store) ← Task.within ({} : FactStore) (FactStore.load files factsPath)
  let owners ← Owners.load files listingPath
  ofFacts body store owners solver

/-! ### Queries -/

/-- The number of a point. -/
def pointAt (a : Analysis) (l : Location) (phase : Phase) : Except Failure PointIndex :=
  (a.points.intern ⟨l, phase⟩).2

/-- The loans live at a point. -/
def liveLoans (a : Analysis) (p : PointIndex) : List Loan :=
  a.output.liveAt p

/-- The loans created at a point, with their regions, in order. -/
def borrowsAt (a : Analysis) (l : Location) (phase : Phase) :
    Except Failure (List (Region × Loan)) := do
  return (a.facts.borrowsAt (← a.pointAt l phase)).mergeSort Facts.pairLe

/-- The regions live at a point with their owners, in order. -/
def regionsAt (a : Analysis) (l : Location) (phase : Phase) :
    Except Failure (List (Region × Option Local)) := do
  let regions := Liveness.sortInts (a.facts.regionsAt (← a.pointAt l phase))
  regions.mapM fun r => do return (r, ← a.owners.ownerOf r)

/-- The analysis in one line. -/
def summary (a : Analysis) : String :=
  "PoloniusInfo(points=" ++ Nat.repr a.points.points.length ++ ", loans="
    ++ Nat.repr a.facts.borrowRegion.length ++ ", fake=" ++ Nat.repr a.completion.count ++ ")"

end Analysis
end BorrowGraph
