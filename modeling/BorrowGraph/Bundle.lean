/-
Bundles: the exported functions of a program.

A bundle is a document with a list of functions, each with its body and, optionally, its initialized
places.  A function that cannot be read makes the whole bundle unreadable.
-/
import BorrowGraph.Body
import BorrowGraph.FileTree
import BorrowGraph.Initialization
import BorrowGraph.Json
import BorrowGraph.Log
import BorrowGraph.Text.Lines

namespace BorrowGraph

/-- A function of a bundle. -/
structure Function where
  name : String
  /-- The full path of its definition. -/
  path : String
  body : Body
  initialization : Option Initialization := none
  deriving Repr

/-! ### Reading bodies -/

/-- Read a place: a spelled local, or a table with a base local and a projection. -/
def Place.read : Value → Except Fault Place
  | .text s => do
    return ⟨← Local.read s, []⟩
  | v => do
    let base ← (← v.require "local").toInteger
    let projection ← v.elementsOf "projection"
    return ⟨base, projection.map Value.plain⟩

/-- Read an optional place. -/
def Place.readField (v : Value) (name : String) : Except Fault (Option Place) := do
  match ← v.present? name with
  | none => return none
  | some w => return some (← Place.read w)

/-- Read a member of an enumeration. -/
def readMember {α : Type} (ofText? : String → Option α) (noun : String) (v : Value) :
    Except Fault α :=
  let refused : Except Fault α := .error (.notAMember v.quoted noun)
  match v with
  | .text s =>
    match ofText? s with
    | some a => .ok a
    | none => refused
  | _ => refused

def Statement.read (v : Value) : Except Fault Statement := do
  let kind ← readMember Statement.Kind.ofText? "StatementKind" (← v.require "kind")
  let place ← Place.readField v "place"
  return ⟨kind, ← v.textOf "text", place⟩

/-- Read a list of block numbers. -/
def readTargets (v : Value) (name : String) : Except Fault (List Int) := do
  (← v.elementsOf name).mapM Value.toInteger

def Terminator.read (v : Value) : Except Fault Terminator := do
  let kind ← readMember Terminator.Kind.ofText? "TerminatorKind" (← v.require "kind")
  let text ← v.textOf "text"
  let targets ← readTargets v "targets"
  let unwind ← (← v.present? "unwind").mapM Value.toInteger
  let imaginary ← readTargets v "imaginary_targets"
  let destination ← Place.readField v "destination"
  return ⟨kind, text, targets, unwind, imaginary, destination, (← v.field? "func").getD .null⟩

/-- Read what a block holds. -/
def Block.read (index : Nat) (v : Value) : Except Fault Block := do
  let statements ← (← v.elementsOf "statements").mapM Statement.read
  let terminator ← (← v.present? "terminator").mapM Terminator.read
  return ⟨index, statements, terminator⟩

def LocalDecl.read (index : Nat) (v : Value) : Except Fault LocalDecl := do
  return ⟨index, ← v.textOf "ty", (← v.field? "name").getD .null⟩

/-- Read the elements of a list, each with its position. -/
def readIndexed {α : Type} (read : Nat → Value → Except Fault α) (start : Nat) :
    List Value → Except Fault (List α)
  | [] => .ok []
  | v :: vs => do
    let a ← read start v
    return a :: (← readIndexed read (start + 1) vs)

def Body.read (v : Value) : Except Fault Body := do
  let locals ← readIndexed LocalDecl.read 0 (← v.elementsOf "local_decls")
  let blocks ← readIndexed Block.read 0 (← v.elementsOf "basic_blocks")
  Body.ofBlocks blocks locals

/-- Read a function of a bundle.  Its path is its name unless another is given. -/
def Function.read (v : Value) : Except Fault Function := do
  let name := (← v.require "name").plain
  let body ← Body.read v
  let initialization ← (← v.present? "initialization").mapM Initialization.read
  return ⟨name, ((← v.field? "def_path").map Value.plain).getD name, body, initialization⟩

/-! ### File names -/

/-- The characters that file names are made of. -/
def isFileNameChar (c : Char) : Bool :=
  ('A' ≤ c && c ≤ 'Z') || ('a' ≤ c && c ≤ 'z') || ('0' ≤ c && c ≤ '9') || c = '_' || c = '-'
    || c = '\x7b' || c = '\x7d' || c = '#' || c = '.'

/-- The file name for a definition path: its components without the crate, joined by dashes. -/
def fileName (path : String) : String :=
  let parts := (Text.splitAtText [':', ':'] path.toList).filter fun p => !p.isEmpty
  let own := if 1 < parts.length then parts.drop 1 else parts
  let joined := Text.join ['-'] own
  let named := if joined.isEmpty then "unnamed".toList else joined
  String.ofList (named.map fun c => if isFileNameChar c then c else '_')

/-! ### Reading bundles -/

namespace Bundle

def logSource : String := "mir_dump.mir"

/-- The diagnostic of a bundle that cannot be used. -/
def diagnostic (path : Path) (text : String) : Diagnostic :=
  { kind := .bundleLoad, code := .malformedBundle, text := text, context := [("path", path.text)] }

/-- Whether a fault in a function is reported as a malformed entry. -/
def isEntryFault : Fault → Bool
  | .infinite | .nestedTooDeeply => false
  | _ => true

/-- The failure that a fault in the function at a position leads to. -/
def entryFailure (path : Path) (position : Nat) (f : Fault) : Failure :=
  if isEntryFault f then
    .diagnostic
      { diagnostic path ("malformed function entry: " ++ f.wording?.getD "<type>") with
        context := [("path", path.text), ("entry", Nat.repr position)] }
  else .fault f

/-- Read the functions of a document, from a position on. -/
def readFunctions (path : Path) (position : Nat) : List Value → Except Failure (List Function)
  | [] => .ok []
  | v :: vs =>
    match Function.read v with
    | .error f => .error (entryFailure path position f)
    | .ok function => do
      return function :: (← readFunctions path (position + 1) vs)

/-- The failure of a document that is not well formed. -/
def documentFailure (path : Path) (source : List Char) : Json.Error → Failure
  | .tooLong n => .fault (.tooManyDigits n)
  | .tooDeep => .fault .nestedTooDeeply
  | .malformed problem position =>
    .diagnostic (diagnostic path
      ("cannot read MIR bundle: " ++ Json.problemMessage source problem position))

/-- Read the functions of a document. -/
def ofDocument (path : Path) : Value → Except Failure (List Function)
  | .table fields =>
    match (((Assoc.get? "functions" fields).getD (.list [])).elements) with
    | .ok entries => readFunctions path 0 entries
    | .error f => .error (.fault f)
  | _ => .error (.diagnostic (diagnostic path "MIR bundle must be a JSON object"))

/-- The failure of a file that cannot be read. -/
def fileFailure (path : Path) : Fault → Failure
  | .refused ⟨.notFound, _, _⟩ =>
    .diagnostic { diagnostic path "MIR bundle not found" with code := .bundleNotFound }
  | .refused e => .diagnostic (diagnostic path ("cannot read MIR bundle: " ++ e.message))
  | f => .fault f

/-- Read the functions of a file. -/
def read (files : FileTree) (path : Path) : Except Failure (List Function) := do
  let bytes ← (files.readBytes path).mapError (fileFailure path)
  let chars ← (Utf8.decode bytes).mapError fun e =>
    .diagnostic (diagnostic path ("cannot read MIR bundle: " ++ e.message))
  let source := Text.unifyLineEnds chars
  let document ← (Json.read .standard source).mapError (documentFailure path source)
  ofDocument path document

/-- Read the functions of a file, keeping a log. -/
def load {σ : Type} (files : FileTree) (path : Path) : Task σ (List Function) := do
  Task.debug logSource ("Loading MIR bundle from " ++ path.text)
  let functions ← Task.ofExcept (read files path)
  Task.info logSource
    ("Loaded " ++ Nat.repr functions.length ++ " function(s) from " ++ path.text)
  return functions

end Bundle
end BorrowGraph
