/-
Reading facts from files.

A directory holds one file for each relation, with one tuple in a line and tabs between its
columns; a column may stand between double quotes.  Points are numbered as they are met.  A
file adds its tuples only once it is read to its end, but the points of its earlier columns
stay numbered.
-/
import BorrowGraph.Facts
import BorrowGraph.FileTree
import BorrowGraph.Log
import BorrowGraph.PointTable
import BorrowGraph.Text.Lines

namespace BorrowGraph

/-- The facts read so far, with the numbering of their points. -/
structure FactStore where
  points : PointTable := .empty
  facts : Facts := .empty
  deriving DecidableEq, Repr

namespace FactStore

def logSource : String := "mir_dump.facts"

/-! ### Relations and columns -/

/-- What a column holds. -/
inductive Column where
  | region
  | loan
  | point
  deriving DecidableEq, Repr

/-- The columns of a relation. -/
def columns : Relation → List Column
  | .borrowRegion => [.region, .loan, .point]
  | .universalRegion => [.region]
  | .outlives => [.region, .region, .point]
  | .regionLiveAt => [.region, .point]
  | .cfgEdge => [.point, .point]
  | .killed => [.loan, .point]
  | .invalidates => [.point, .loan]

/-- Whether the file of a relation has to be there. -/
def isRequired : Relation → Bool
  | .borrowRegion | .outlives | .regionLiveAt => true
  | _ => false

/-! ### Lines -/

/-- Drop the blanks around a column, and then one pair of double quotes. -/
def unquote (cs : List Char) : List Char :=
  match Text.trim cs with
  | '"' :: rest =>
    match rest.reverse with
    | '"' :: inner => inner.reverse
    | _ => '"' :: rest
  | trimmed => trimmed

/-- The diagnostic for a line that is not a tuple. -/
def lineDiagnostic (path : Path) (line : Nat) (text : String) : Diagnostic :=
  { kind := .factLoad
    code := .malformedFact
    text := text
    context := [("path", path.text), ("line", Nat.repr line)] }

/-- Read a column; a point may get a number. -/
def readColumn (points : PointTable) (column : Column) (s : String) :
    PointTable × Except Failure Int :=
  match column with
  | .region => (points, (Region.read s).mapError .fault)
  | .loan => (points, (Loan.read s).mapError .fault)
  | .point =>
    match Point.read s with
    | .error f => (points, .error (.fault f))
    | .ok p => points.intern p

/-- Read the columns of a line from left to right.  The numbering is kept also when one of them
cannot be read. -/
def readColumns (points : PointTable) :
    List Column → List String → PointTable × Except Failure (List Int)
  | column :: columns, s :: rest =>
    match readColumn points column s with
    | (points, .error e) => (points, .error e)
    | (points, .ok n) =>
      match readColumns points columns rest with
      | (points, .error e) => (points, .error e)
      | (points, .ok ns) => (points, .ok (n :: ns))
  | _, _ => (points, .ok [])

/-- A fault in a line becomes a diagnostic that names the line. -/
def lineFailure (path : Path) (line : Nat) : Failure → Failure
  | .fault f => .diagnostic (lineDiagnostic path line f.text)
  | e => e

/-- Read a line that is not blank. -/
def readLine (path : Path) (columns : List Column) (line : Nat) (points : PointTable)
    (cs : List Char) : PointTable × Except Failure (List Int) :=
  let fields := (Text.splitAtChar '\t' cs).map fun f => String.ofList (unquote f)
  if fields.length ≠ columns.length then
    (points, .error (.diagnostic (lineDiagnostic path line
      ("expected " ++ Nat.repr columns.length ++ " field(s), found " ++ Nat.repr fields.length))))
  else
    match readColumns points columns fields with
    | (points, .ok row) => (points, .ok row)
    | (points, .error e) => (points, .error (lineFailure path line e))

/-- Read lines, numbered from `line` on; blank ones are passed over. -/
def readLines (path : Path) (columns : List Column) (line : Nat) (points : PointTable) :
    List (List Char) → PointTable × Except Failure (List (List Int))
  | [] => (points, .ok [])
  | cs :: rest =>
    if (Text.trim cs).isEmpty then readLines path columns (line + 1) points rest
    else
      match readLine path columns line points cs with
      | (points, .error e) => (points, .error e)
      | (points, .ok row) =>
        match readLines path columns (line + 1) points rest with
        | (points, .error e) => (points, .error e)
        | (points, .ok rows) => (points, .ok (row :: rows))

/-! ### Files -/

/-- The diagnostic for facts that are missing. -/
def missingDiagnostic (path : Path) (text : String) : Diagnostic :=
  { kind := .factLoad, code := .factsNotFound, text := text, context := [("path", path.text)] }

/-- The lines of a file. -/
def fileLines (files : FileTree) (path : Path) : Except Failure (List (List Char)) :=
  match files.readBytes path with
  | .error (.refused e) =>
    .error (.diagnostic (missingDiagnostic path ("cannot read fact file: " ++ e.message)))
  | .error f => .error (.fault f)
  | .ok bytes =>
    match Utf8.decode bytes with
    | .ok chars => .ok (Text.lines (Text.unifyLineEnds chars))
    | .error e =>
      .error (.diagnostic
        { missingDiagnostic path ("fact file is not valid UTF-8: " ++ e.message) with
          code := .malformedFact })

/-- Read the file of a relation and add its tuples. -/
def loadFile (files : FileTree) (path : Path) (relation : Relation) : Task FactStore Unit := do
  let lines ← Task.ofExcept (fileLines files path)
  let store ← Task.getState
  let (points, result) := readLines path (columns relation) 1 store.points lines
  Task.setState { store with points := points }
  let rows ← Task.ofExcept result
  Task.setState ⟨points, store.facts.insertAll relation rows⟩
  Task.debug logSource
    ("Loaded " ++ Nat.repr rows.length ++ " tuple(s) of " ++ relation.name)

/-- The name of the file of a relation. -/
def fileOf (relation : Relation) : String :=
  relation.name ++ ".facts"

/-- Read the file of a relation in a directory, if it is there. -/
def loadRelation (files : FileTree) (directory : Path) (relation : Relation) :
    Task FactStore Unit := do
  let path := directory.child (fileOf relation)
  if ← Task.ofExcept ((files.isThere path).mapError .fault) then loadFile files path relation
  else if isRequired relation then
    Task.refuse
      (missingDiagnostic path ("missing relation file '" ++ fileOf relation ++ "'"))
  else
    Task.debug logSource
      ("Optional relation " ++ relation.name ++ " absent, treating as empty")

/-- Read the files of several relations. -/
def loadRelations (files : FileTree) (directory : Path) : List Relation → Task FactStore Unit
  | [] => return ()
  | relation :: rest => do
    loadRelation files directory relation
    loadRelations files directory rest

/-- Read all facts of a directory. -/
def load (files : FileTree) (directory : Path) : Task FactStore Unit := do
  Task.debug logSource ("Reading facts from: " ++ directory.text)
  if ← Task.ofExcept ((files.isDirectory directory).mapError .fault) then
    loadRelations files directory Relation.all
  else Task.refuse (missingDiagnostic directory "fact directory not found")

end FactStore
end BorrowGraph
