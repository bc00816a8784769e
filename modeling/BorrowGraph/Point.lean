/-
Locations and points of a body.

A location is a statement of a block, or its terminator.  At each location there are two points: one
before its effects and one after them.  Locations are ordered by block, then by statement; points by
location, then by phase.
-/
import BorrowGraph.Atom

namespace BorrowGraph

/-- A statement of a block, or its terminator, by their numbers. -/
structure Location where
  block : Int
  index : Int
  deriving DecidableEq, Repr

namespace Location

def text (l : Location) : String :=
  "bb" ++ Decimal.text l.block ++ "[" ++ Decimal.text l.index ++ "]"

def pieces : List Spelling.Piece := [.mark "bb", .digits, .mark "[", .digits, .mark "]"]

/-- Whether both numbers are short enough to be written as text. -/
def fits (l : Location) : Bool :=
  Decimal.fits l.block && Decimal.fits l.index

/-- Read a location; blanks around it do not matter. -/
def read (s : String) : Except Fault Location :=
  match Spelling.scan pieces (Text.trim s.toList) with
  | some [block, index] => do
    return ⟨← Spelling.number block, ← Spelling.number index⟩
  | _ => .error (.notAnAtom .location s)

/-- The order of locations. -/
def before (a b : Location) : Bool :=
  decide (a.block < b.block) || (a.block == b.block && decide (a.index < b.index))

/-- The order of locations, equal ones included. -/
def notAfter (a b : Location) : Bool :=
  !b.before a

end Location

/-- The two moments at a location: before its effects and after them. -/
inductive Phase where
  | start
  | mid
  deriving DecidableEq, Repr

namespace Phase

def text : Phase → String
  | .start => "Start"
  | .mid => "Mid"

def rank : Phase → Int
  | .start => 0
  | .mid => 1

/-- Read a phase. -/
def read (s : String) : Except Fault Phase :=
  if s = "Start" then .ok .start
  else if s = "Mid" then .ok .mid
  else .error (.notAMember (Text.quote s) "PointType")

end Phase

/-- A moment in the run of a body. -/
structure Point where
  location : Location
  phase : Phase
  deriving DecidableEq, Repr

namespace Point

def text (p : Point) : String :=
  p.phase.text ++ "(" ++ p.location.text ++ ")"

def pieces (phase : Phase) : List Spelling.Piece :=
  .mark phase.text :: .mark "(" :: Location.pieces ++ [.mark ")"]

/-- Read a point; nothing but a line end may stand around it. -/
def read (s : String) : Except Fault Point :=
  let found (phase : Phase) : Option (Phase × List (List Char)) :=
    (Spelling.scan (pieces phase) s.toList).map fun runs => (phase, runs)
  match (found .start).or (found .mid) with
  | some (phase, [block, index]) => do
    return ⟨⟨← Spelling.number block, ← Spelling.number index⟩, phase⟩
  | _ => .error (.notAnAtom .point s)

/-- The order of points. -/
def before (p q : Point) : Bool :=
  p.location.before q.location
    || (p.location == q.location && decide (p.phase.rank < q.phase.rank))

/-- The order of points, equal ones included. -/
def notAfter (p q : Point) : Bool :=
  !q.before p

end Point
end BorrowGraph
