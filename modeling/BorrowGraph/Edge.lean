/-
Edges of the control-flow graph.

The terminator of a block says which edges leave it: to other blocks, or to one of the named
exits of a function.  Generators have no edges that could be drawn.
-/
import BorrowGraph.Body
import BorrowGraph.Diagnostic

namespace BorrowGraph

/-- The kinds of edges. -/
inductive Edge.Kind where
  | normal
  | unwind
  | imaginary
  deriving DecidableEq, Repr

def Edge.Kind.text : Edge.Kind → String
  | .normal => "normal"
  | .unwind => "unwind"
  | .imaginary => "imaginary"

/-- The exits of a function. -/
inductive Exit where
  | resume
  | abort
  | return
  deriving DecidableEq, Repr

def Exit.text : Exit → String
  | .resume => "resume"
  | .abort => "abort"
  | .return => "return"

/-- Where an edge leads. -/
inductive Edge.Target where
  | block (index : Int)
  | exit (e : Exit)
  deriving DecidableEq, Repr

/-- The name of the node of a block. -/
def blockName (index : Int) : String :=
  "bb" ++ Decimal.text index

def Edge.Target.name : Edge.Target → String
  | .block index => blockName index
  | .exit e => e.text

/-- An edge from a block. -/
structure Edge where
  source : Int
  target : Edge.Target
  kind : Edge.Kind := .normal
  deriving DecidableEq, Repr

namespace Edge

/-- An edge in one line. -/
def summary (e : Edge) : String :=
  "Edge(" ++ blockName e.source ++ " -> " ++ e.target.name ++ ", kind=" ++ Text.quote e.kind.text
    ++ ")"

/-- Edges to blocks. -/
def toBlocks (source : Int) (targets : List Int) (kind : Kind := .normal) : List Edge :=
  targets.map fun t => ⟨source, .block t, kind⟩

end Edge

/-- The diagnostic for a terminator without edges that could be drawn. -/
def unsupportedTerminator (kind : String) (block : Int) : Diagnostic :=
  { kind := .unsupportedTerminator
    code := .unsupportedTerminator
    text := "unsupported terminator kind '" ++ kind ++ "'"
    context := [("block", blockName block)] }

/-- How a terminator without edges is refused.  The diagnostic names the block, so that its
number has to be short enough to be written. -/
def unsupportedFailure (kind : String) (block : Int) : Failure :=
  if Decimal.fits block then .diagnostic (unsupportedTerminator kind block)
  else .fault .tooLargeToWrite

/-- The edges that a terminator draws from its block. -/
def Terminator.edges (t : Terminator) (source : Int) : Except Failure (List Edge) :=
  let normal := Edge.toBlocks source t.targets
  match t.kind with
  | .goto | .switchInt => .ok normal
  | .resume => .ok [⟨source, .exit .resume, .normal⟩]
  | .abort => .ok [⟨source, .exit .abort, .normal⟩]
  | .return => .ok [⟨source, .exit .return, .normal⟩]
  | .unreachable => .ok []
  | .drop | .dropAndReplace | .call | .assert =>
    .ok (normal ++ Edge.toBlocks source t.unwind.toList .unwind)
  | .falseEdges => .ok (normal ++ Edge.toBlocks source t.imaginaryTargets .imaginary)
  | .falseUnwind => .ok (normal ++ Edge.toBlocks source t.unwind.toList .imaginary)
  | .yield | .generatorDrop => .error (unsupportedFailure t.kind.text source)

/-- The edges that leave a block. -/
def Block.edges (b : Block) : Except Failure (List Edge) :=
  match b.terminator with
  | none => .ok []
  | some t => t.edges b.index

end BorrowGraph
