/-
Bodies: the control-flow graph of one function.

A body has blocks and declared locals.  A block is a list of statements with, usually, a
terminator; the location one past its last statement is that of the terminator.  Blocks and
statements may be asked for by negative numbers, which count from the end.
-/
import BorrowGraph.Point
import BorrowGraph.Value

namespace BorrowGraph

/-- The item at an index; a negative index counts from the end. -/
def itemAt {α : Type} (items : List α) (i : Int) : Except Fault α :=
  let position := if i < 0 then i + items.length else i
  if position < 0 then .error .indexOutOfRange
  else
    match items[position.toNat]? with
    | some item => .ok item
    | none => .error .indexOutOfRange

/-- A local, possibly projected. -/
structure Place where
  base : Local
  projection : List String := []
  deriving DecidableEq, Repr

namespace Place

/-- Whether a place is a local as a whole. -/
def isLocal (p : Place) : Bool :=
  p.projection.isEmpty

def text (p : Place) : String :=
  Local.text p.base ++ String.join p.projection

end Place

/-! ### Statements -/

/-- The kinds of statements. -/
inductive Statement.Kind where
  | assign
  | fakeRead
  | setDiscriminant
  | storageLive
  | storageDead
  | inlineAsm
  | retag
  | ascribeUserType
  | nop
  deriving DecidableEq, Repr

namespace Statement.Kind

def all : List Kind :=
  [.assign, .fakeRead, .setDiscriminant, .storageLive, .storageDead, .inlineAsm, .retag,
    .ascribeUserType, .nop]

def text : Kind → String
  | .assign => "assign"
  | .fakeRead => "fake_read"
  | .setDiscriminant => "set_discriminant"
  | .storageLive => "storage_live"
  | .storageDead => "storage_dead"
  | .inlineAsm => "inline_asm"
  | .retag => "retag"
  | .ascribeUserType => "ascribe_user_type"
  | .nop => "nop"

def ofText? (s : String) : Option Kind :=
  all.find? fun k => k.text = s

end Statement.Kind

/-- A statement with the text the compiler gives it. -/
structure Statement where
  kind : Statement.Kind
  text : String := ""
  /-- The place it assigns, if it is an assignment. -/
  place : Option Place := none
  deriving DecidableEq, Repr

/-! ### Terminators -/

/-- The kinds of terminators. -/
inductive Terminator.Kind where
  | goto
  | switchInt
  | resume
  | abort
  | return
  | unreachable
  | drop
  | dropAndReplace
  | call
  | assert
  | yield
  | generatorDrop
  | falseEdges
  | falseUnwind
  deriving DecidableEq, Repr

namespace Terminator.Kind

def all : List Kind :=
  [.goto, .switchInt, .resume, .abort, .return, .unreachable, .drop, .dropAndReplace, .call,
    .assert, .yield, .generatorDrop, .falseEdges, .falseUnwind]

def text : Kind → String
  | .goto => "goto"
  | .switchInt => "switch_int"
  | .resume => "resume"
  | .abort => "abort"
  | .return => "return"
  | .unreachable => "unreachable"
  | .drop => "drop"
  | .dropAndReplace => "drop_and_replace"
  | .call => "call"
  | .assert => "assert"
  | .yield => "yield"
  | .generatorDrop => "generator_drop"
  | .falseEdges => "false_edges"
  | .falseUnwind => "false_unwind"

def ofText? (s : String) : Option Kind :=
  all.find? fun k => k.text = s

end Terminator.Kind

/-- The instruction that ends a block and says where control goes. -/
structure Terminator where
  kind : Terminator.Kind
  text : String := ""
  /-- The ordinary successors. -/
  targets : List Int := []
  /-- The block that cleans up. -/
  unwind : Option Int := none
  /-- Successors that exist for the borrow checker only. -/
  imaginaryTargets : List Int := []
  /-- Where a call puts its result. -/
  destination : Option Place := none
  /-- The called function, as the bundle gives it. -/
  func : Value := .null
  deriving Repr

/-- The text shown for a terminator; a call also shows what it calls. -/
def Terminator.label (t : Terminator) : String :=
  if t.kind = .call && t.func.isTruthy then t.text ++ "\n" ++ t.func.plain else t.text

/-! ### Blocks and bodies -/

/-- A block with its number. -/
structure Block where
  index : Int
  statements : List Statement := []
  terminator : Option Terminator := none
  deriving Repr

namespace Block

/-- The location of the terminator. -/
def terminatorLocation (b : Block) : Location :=
  ⟨b.index, b.statements.length⟩

/-- The locations of a block: its statements, then its terminator. -/
def locations (b : Block) : List Location :=
  (List.range (b.statements.length + 1)).map fun (i : Nat) => ⟨b.index, i⟩

/-- Whether a block ends in a call. -/
def endsInCall (b : Block) : Bool :=
  match b.terminator with
  | some t => decide (t.kind = .call)
  | none => false

/-- A block in one line. -/
def summary (b : Block) : String :=
  let terminator := match b.terminator with
    | some t => Text.quote t.kind.text
    | none => "None"
  "BasicBlock(bb" ++ Decimal.text b.index ++ ", nstatements=" ++ Nat.repr b.statements.length
    ++ ", terminator=" ++ terminator ++ ")"

end Block

/-- A declared local.  Its name is kept as the bundle gives it; a temporary has none. -/
structure LocalDecl where
  index : Local
  type : String := ""
  name : Value := .null
  deriving Repr

/-- Whether a local was introduced by the compiler. -/
def LocalDecl.isTemporary (d : LocalDecl) : Bool :=
  d.name.isNull

/-- The control-flow graph of one function. -/
structure Body where
  blocks : List Block := []
  locals : List LocalDecl := []
  deriving Repr

namespace Body

/-- The first block whose number is not its position, counted from `start`. -/
def misplaced? (start : Nat) : List Block → Option (Int × Nat)
  | [] => none
  | b :: bs => if b.index = (start : Int) then misplaced? (start + 1) bs else some (b.index, start)

/-- A body of blocks that are numbered by their positions. -/
def ofBlocks (blocks : List Block) (locals : List LocalDecl) : Except Fault Body :=
  match misplaced? 0 blocks with
  | some (index, position) => .error (.misplacedBlock index position)
  | none => .ok ⟨blocks, locals⟩

/-- The block that comes next, with the number it gets. -/
def nextBlock (b : Body) (statements : List Statement) (terminator : Option Terminator) : Block :=
  ⟨b.blocks.length, statements, terminator⟩

/-- Add a block at the end. -/
def addBlock (b : Body) (statements : List Statement) (terminator : Option Terminator) : Body :=
  { b with blocks := b.blocks ++ [b.nextBlock statements terminator] }

/-- The block with a number. -/
def block (b : Body) (i : Int) : Except Fault Block :=
  itemAt b.blocks i

/-- All locations, block by block. -/
def locations (b : Body) : List Location :=
  b.blocks.flatMap Block.locations

/-- Whether a location is that of a statement or terminator. -/
def contains (b : Body) (l : Location) : Bool :=
  if l.block < 0 then false
  else
    match b.blocks[l.block.toNat]? with
    | none => false
    | some block => decide (0 ≤ l.index) && decide (l.index ≤ block.statements.length)

/-- The statement at a location; a terminator has none. -/
def statementAt (b : Body) (l : Location) : Except Fault (Option Statement) := do
  let block ← b.block l.block
  if l.index < block.statements.length then return some (← itemAt block.statements l.index)
  else return none

/-- Whether a location is that of a terminator. -/
def isTerminatorLocation (b : Body) (l : Location) : Except Fault Bool := do
  let block ← b.block l.block
  return decide (l.index = block.statements.length)

/-- Whether the statement at a location is an assignment. -/
def isAssignment (b : Body) (l : Location) : Except Fault Bool := do
  match ← b.statementAt l with
  | some s => return decide (s.kind = .assign)
  | none => return false

/-- Whether a location is that of a call. -/
def isCall (b : Body) (l : Location) : Except Fault Bool := do
  if ← b.isTerminatorLocation l then return (← b.block l.block).endsInCall
  else return false

/-- The place where the call at a location puts its result; a call that does not return has none. -/
def callDestination (b : Body) (l : Location) : Except Fault (Option Place) := do
  if ← b.isCall l then return (← b.block l.block).terminator.bind Terminator.destination
  else throw (.notACall l.text)

/-- The declaration of a local. -/
def localDecl? (b : Body) (n : Local) : Option LocalDecl :=
  if n < 0 then none else b.locals[n.toNat]?

/-- A body in one line. -/
def summary (b : Body) : String :=
  "MirBody(blocks=" ++ Nat.repr b.blocks.length ++ ", locals=" ++ Nat.repr b.locals.length ++ ")"

end Body
end BorrowGraph
