/-
Reports: what is known at each location of a function.

A report has one record for each location, in the order of the body, and the edges of each block.
-/
import BorrowGraph.Analysis
import BorrowGraph.Edge
import BorrowGraph.Initialization

namespace BorrowGraph

/-- The two values at a location: before its effects and after them. -/
structure Phased (α : Type) where
  start : α
  mid : α
  deriving DecidableEq, Repr

/-- What is known at a location.  All sets are in order. -/
structure Record where
  location : Location
  text : String
  isTerminator : Bool
  /-- The live loans. -/
  loans : Phased (List Loan)
  /-- The loans created, with their regions. -/
  borrows : Phased (List (Region × Loan))
  /-- The live regions, with their owners. -/
  regions : Phased (List (Region × Option Local))
  /-- The places initialized afterwards. -/
  initialized : List String
  deriving DecidableEq, Repr

/-- The records and edges of a block. -/
structure BlockReport where
  index : Int
  /-- The places initialized on entry. -/
  initialized : List String
  records : List Record
  edges : List Edge
  deriving DecidableEq, Repr

/-- The report of a function. -/
structure Report where
  name : String
  path : String
  blocks : List BlockReport
  locals : List LocalDecl
  /-- The regions of locals, in order. -/
  regions : List (Local × Region)
  completion : Completion
  deriving Repr

namespace Report

def logSource : String := "mir_dump.mir_dumper"

/-- All records. -/
def records (r : Report) : List Record :=
  r.blocks.flatMap BlockReport.records

/-- All edges. -/
def edges (r : Report) : List Edge :=
  r.blocks.flatMap BlockReport.edges

/-- The record of a location. -/
def recordAt? (r : Report) (l : Location) : Option Record :=
  r.records.find? fun record => record.location = l

/-- Sort texts. -/
def sortTexts (ts : List String) : List String :=
  ts.mergeSort fun a b => decide (a ≤ b)

/-! ### Building -/

/-- The record of a location. -/
def record (a : Analysis) (i : Initialization) (l : Location) (text : String)
    (isTerminator : Bool) : Except Failure Record := do
  let start ← a.pointAt l .start
  let mid ← a.pointAt l .mid
  let borrows : Phased (List (Region × Loan)) := ⟨← a.borrowsAt l .start, ← a.borrowsAt l .mid⟩
  let regions : Phased (List (Region × Option Local)) :=
    ⟨← a.regionsAt l .start, ← a.regionsAt l .mid⟩
  return {
    location := l
    text := text
    isTerminator := isTerminator
    loans := ⟨a.liveLoans start, a.liveLoans mid⟩
    borrows := borrows
    regions := regions
    initialized := sortTexts (i.afterStatement l) }

/-- The records of statements, numbered from `index` on. -/
def statementRecords (a : Analysis) (i : Initialization) (block : Int) (index : Nat) :
    List Statement → Except Failure (List Record)
  | [] => .ok []
  | s :: rest => do
    let r ← record a i ⟨block, index⟩ s.text false
    return r :: (← statementRecords a i block (index + 1) rest)

/-- The report of a block. -/
def blockReport (a : Analysis) (i : Initialization) (b : Block) : Except Failure BlockReport := do
  let statements ← statementRecords a i b.index 0 b.statements
  let label := (b.terminator.map Terminator.label).getD ""
  let terminator ← record a i b.terminatorLocation label true
  let edges ← b.edges
  return ⟨b.index, sortTexts (i.beforeBlock b.index), statements ++ [terminator], edges⟩

/-- The report of a function; its path is its name unless another is given. -/
def build (body : Body) (a : Analysis) (initialization : Option Initialization)
    (name path : String) : Except Failure Report := do
  let i := initialization.getD .none
  let blocks ← body.blocks.mapM (blockReport a i)
  return {
    name := name
    path := if path.isEmpty then name else path
    blocks := blocks
    locals := body.locals
    regions := a.owners.items
    completion := a.completion }

/-- The entry logged for a report. -/
def built (r : Report) : String :=
  "Built report for " ++ r.path ++ ": " ++ Nat.repr r.blocks.length ++ " block(s), "
    ++ Nat.repr r.edges.length ++ " edge(s)"

/-- Build a report, keeping a log. -/
def make {σ : Type} (body : Body) (a : Analysis) (initialization : Option Initialization)
    (name path : String) : Task σ Report := do
  let r ← Task.ofExcept (build body a initialization name path)
  Task.debug logSource r.built
  return r

end Report
end BorrowGraph
