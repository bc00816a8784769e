/-
A tree of files.

Files and directories are entries under keys: an anchor, such as the working directory, and the
components below it.  Every anchor is a directory.  Looking a path up walks its components one
by one, so that `..` leaves the directory it is met in, and a missing or unsuitable directory
on the way is noticed.  The operations refuse as an operating system does where names are too
long, directories are missing, or a file stands for a directory or a directory for a file.
There are no links, everybody may read and write everything, and space does not run out.
-/
import BorrowGraph.Assoc
import BorrowGraph.Fault
import BorrowGraph.Path

namespace BorrowGraph

/-- Where a key starts: the working directory, the root of all files, or some levels above the
working directory. -/
inductive FileTree.Anchor where
  | working
  | root
  | above (levels : Nat)
  deriving DecidableEq, Repr

/-- The place of an entry. -/
structure FileTree.Key where
  anchor : FileTree.Anchor
  parts : List String
  deriving DecidableEq, Repr

/-- An entry: a file with its bytes, or a directory. -/
inductive FileTree.Node where
  | file (content : List UInt8)
  | directory
  deriving DecidableEq, Repr

/-- The files and directories of a run. -/
structure FileTree where
  entries : List (FileTree.Key × FileTree.Node)
  deriving DecidableEq, Repr

namespace FileTree

/-- No files. -/
def empty : FileTree := ⟨[]⟩

/-- The key of the directory that holds an entry. -/
def Key.up : Key → Key
  | ⟨.working, []⟩ => ⟨.above 1, []⟩
  | ⟨.above n, []⟩ => ⟨.above (n + 1), []⟩
  | ⟨.root, []⟩ => ⟨.root, []⟩
  | ⟨a, c :: cs⟩ => ⟨a, (c :: cs).dropLast⟩

/-- The key of an entry below a directory. -/
def Key.down (k : Key) (component : String) : Key :=
  { k with parts := k.parts ++ [component] }

/-- The entry at a key. -/
def node? (t : FileTree) (k : Key) : Option Node :=
  if k.parts.isEmpty then some .directory else Assoc.get? k t.entries

/-- Set the entry at a key. -/
def set (t : FileTree) (k : Key) (n : Node) : FileTree :=
  ⟨Assoc.put k n t.entries⟩

def erase (t : FileTree) (k : Key) : FileTree :=
  ⟨t.entries.filter fun (k', _) => k' ≠ k⟩

/-! ### Looking paths up -/

/-- The longest component a file name may have, in bytes. -/
def nameLimit : Nat := 255

/-- The length, in bytes, from which on a path is refused. -/
def pathLimit : Nat := 4096

/-- Walk down from a directory. -/
def walk (t : FileTree) : Key → List String → Except FileError.Cause Key
  | k, [] => .ok k
  | k, c :: cs =>
    match t.node? k with
    | none => .error .notFound
    | some (.file _) => .error .notDirectory
    | some .directory =>
      if c = ".." then t.walk k.up cs
      else if nameLimit < c.utf8ByteSize then .error .nameTooLong
      else t.walk (k.down c) cs

/-- The key of the directory from which a path starts. -/
def startOf (p : Path) : Key :=
  if p.root = "" then ⟨.working, []⟩ else ⟨.root, []⟩

/-- The key that a path leads to; there need not be an entry. -/
def locate (t : FileTree) (p : Path) : Except FileError.Cause Key :=
  if pathLimit ≤ p.text.utf8ByteSize then .error .nameTooLong else t.walk (startOf p) p.parts

/-- The entry that a path leads to. -/
def stat (t : FileTree) (p : Path) : Except FileError.Cause Node := do
  let k ← t.locate p
  match t.node? k with
  | some n => return n
  | none => throw .notFound

/-- Ask something about the entry of a path.  That there is none is an answer; that the path cannot
be looked up at all is a fault. -/
def ask (t : FileTree) (p : Path) (q : Node → Bool) : Except Fault Bool :=
  if p.hasNull then .ok false
  else
    match t.stat p with
    | .ok n => .ok (q n)
    | .error .notFound | .error .notDirectory => .ok false
    | .error c => .error (.refused ⟨c, some p.text, none⟩)

def Node.isFile : Node → Bool
  | .file _ => true
  | .directory => false

def isFile (t : FileTree) (p : Path) : Except Fault Bool :=
  t.ask p Node.isFile

def isDirectory (t : FileTree) (p : Path) : Except Fault Bool :=
  t.ask p fun n => !n.isFile

def isThere (t : FileTree) (p : Path) : Except Fault Bool :=
  t.ask p fun _ => true

/-! ### Reading -/

/-- The bytes of a file. -/
def readBytes (t : FileTree) (p : Path) : Except Fault (List UInt8) :=
  if p.hasNull then .error .nullInPath
  else
    match t.stat p with
    | .ok (.file content) => .ok content
    | .ok .directory => .error (.refused ⟨.isDirectory, some p.text, none⟩)
    | .error c => .error (.refused ⟨c, some p.text, none⟩)

/-! ### Writing -/

/-- Make one directory. -/
def makeDirectory (t : FileTree) (p : Path) : Except FileError.Cause FileTree := do
  let k ← t.locate p
  match t.node? k with
  | some _ => throw .alreadyExists
  | none => return t.set k .directory

/-- Whether a path leads to a directory. -/
def hasDirectory (t : FileTree) (p : Path) : Bool :=
  match t.stat p with
  | .ok .directory => true
  | _ => false

/-- Make one directory unless it is there. -/
def ensureDirectory (t : FileTree) (p : Path) : Except FileError FileTree :=
  match t.makeDirectory p with
  | .ok t' => .ok t'
  | .error c => if t.hasDirectory p then .ok t else .error ⟨c, some p.text, none⟩

/-- Make a directory and those above it, unless they are there; `rev` holds the components from the
last to the first. -/
def ensureDirectories (t : FileTree) (root : String) : List String →
    FileTree × Except FileError Unit
  | [] =>
    match t.ensureDirectory ⟨root, []⟩ with
    | .ok t' => (t', .ok ())
    | .error e => (t, .error e)
  | c :: rev =>
    let p : Path := ⟨root, (c :: rev).reverse⟩
    match t.makeDirectory p with
    | .ok t' => (t', .ok ())
    | .error .notFound =>
      match t.ensureDirectories root rev with
      | (t', .error e) => (t', .error e)
      | (t', .ok ()) =>
        match t'.ensureDirectory p with
        | .ok t'' => (t'', .ok ())
        | .error e => (t', .error e)
    | .error cause =>
      if t.hasDirectory p then (t, .ok ()) else (t, .error ⟨cause, some p.text, none⟩)

/-- Make a directory and those above it. -/
def makeDirectories (t : FileTree) (p : Path) : FileTree × Except FileError Unit :=
  t.ensureDirectories p.root p.parts.reverse

/-- Open a file for writing: it is created or emptied. -/
def openForWriting (t : FileTree) (p : Path) : Except FileError (Key × FileTree) :=
  match t.locate p with
  | .error c => .error ⟨c, some p.text, none⟩
  | .ok k =>
    match t.node? k with
    | some .directory => .error ⟨.isDirectory, some p.text, none⟩
    | _ =>
      match t.node? k.up with
      | some .directory => .ok (k, t.set k (.file []))
      | some (.file _) => .error ⟨.notDirectory, some p.text, none⟩
      | none => .error ⟨.notFound, some p.text, none⟩

/-- Move a file over another path. -/
def replace (t : FileTree) (source target : Path) : Except FileError FileTree :=
  let refuse (c : FileError.Cause) : Except FileError FileTree :=
    .error ⟨c, some source.text, some target.text⟩
  match t.locate source, t.locate target with
  | .error c, _ => refuse c
  | _, .error c => refuse c
  | .ok k, .ok k' =>
    if target.parts.isEmpty || target.name? = some ".." then refuse .busy
    else
      match t.node? k, t.node? k' with
      | none, _ => refuse .notFound
      | some .directory, _ => refuse .isDirectory
      | some (.file _), some .directory => refuse .isDirectory
      | some (.file content), _ => .ok ((t.set k' (.file content)).erase k)

/-- Remove a file if there is one. -/
def unlink (t : FileTree) (p : Path) : Except FileError FileTree :=
  match t.stat p with
  | .error .notFound => .ok t
  | .error c => .error ⟨c, some p.text, none⟩
  | .ok .directory => .error ⟨.isDirectory, some p.text, none⟩
  | .ok (.file _) =>
    match t.locate p with
    | .ok k => .ok (t.erase k)
    | .error c => .error ⟨c, some p.text, none⟩

/-! ### Setting a tree up -/

/-- Add the directories above a key. -/
def addParents (t : FileTree) (anchor : Anchor) (above : List String) : List String → FileTree
  | [] => t
  | [_] => t
  | c :: cs =>
    let here : Key := ⟨anchor, above ++ [c]⟩
    let t := match t.node? here with
      | some _ => t
      | none => t.set here .directory
    t.addParents anchor (above ++ [c]) cs

/-- Add an entry, with the directories above it. -/
def add (t : FileTree) (k : Key) (n : Node) : FileTree :=
  (t.addParents k.anchor [] k.parts).set k n

/-- The key of a path whose directories are all there. -/
def keyOf (p : Path) : Key :=
  p.parts.foldl (fun k c => if c = ".." then k.up else k.down c) (startOf p)

/-- The key as a path, seen from the working directory. -/
def Key.text : Key → String
  | ⟨.working, parts⟩ => "/".intercalate parts
  | ⟨.root, parts⟩ => "/" ++ "/".intercalate parts
  | ⟨.above n, parts⟩ => "/".intercalate (List.replicate n ".." ++ parts)

/-- The files, with their keys. -/
def files (t : FileTree) : List (Key × List UInt8) :=
  t.entries.filterMap fun (k, n) =>
    match n with
    | .file content => some (k, content)
    | .directory => none

end FileTree
end BorrowGraph
