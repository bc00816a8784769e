/-
Paths in normal form.

A path is a root, empty for a relative one, and its components.  Reading a path drops empty
components and `.`, and keeps `..`; a path without root and components is written `.`.
-/
import BorrowGraph.Text.Split

namespace BorrowGraph

/-- A path in normal form. -/
structure Path where
  /-- Empty, one slash, or exactly two slashes. -/
  root : String
  parts : List String
  deriving DecidableEq, Repr

namespace Path

/-- The root with which a text begins. -/
def rootOf : List Char → String
  | '/' :: '/' :: '/' :: _ => "/"
  | '/' :: '/' :: _ => "//"
  | '/' :: _ => "/"
  | _ => ""

/-- Read a path. -/
def ofText (s : String) : Path :=
  let pieces := (Text.splitAtChar '/' s.toList).map String.ofList
  ⟨rootOf s.toList, pieces.filter fun c => c ≠ "" && c ≠ "."⟩

/-- The normal form as text. -/
def text (p : Path) : String :=
  if p.root = "" && p.parts.isEmpty then "." else p.root ++ "/".intercalate p.parts

/-- The second path seen from the first; a rooted second path stands alone. -/
def append (p q : Path) : Path :=
  if q.root = "" then ⟨p.root, p.parts ++ q.parts⟩ else q

/-- The path to a component below a path, itself read as a path. -/
def child (p : Path) (component : String) : Path :=
  p.append (ofText component)

/-- The path without its last component; a path without components is its own parent. -/
def parent (p : Path) : Path :=
  { p with parts := p.parts.dropLast }

/-- The last component. -/
def name? (p : Path) : Option String :=
  p.parts.getLast?

/-- The path with `suffix` added to its last component. -/
def addSuffix (p : Path) (name suffix : String) : Path :=
  { p with parts := p.parts.dropLast ++ [name ++ suffix] }

/-- Whether a path has a root. -/
def isAbsolute (p : Path) : Bool :=
  p.root ≠ ""

/-- Whether a text has a null character, which no file name can hold. -/
def hasNull (p : Path) : Bool :=
  p.parts.any fun c => c.toList.contains (Char.ofNat 0)

end Path
end BorrowGraph
