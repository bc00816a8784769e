/-
The command line as a program: it gathers the files, runs the command line on them, and carries
out the changes.
-/
import BorrowGraph.CommandLine.Sources
import BorrowGraph.Settings.Standard

namespace BorrowGraph.CommandLine

/-! ### Reading -/

/-- The number with which the operating system says that something is a directory. -/
def isDirectoryNumber : UInt32 := 21

/-- What there is at a path. -/
def readEntry (p : Path) : IO (Option FileTree.Node) := do
  try
    let bytes ← IO.FS.readBinFile p.text
    return some (.file bytes.toList)
  catch
    | .inappropriateType _ number _ =>
      return if number = isDirectoryNumber then some .directory else none
    | _ => return none

/-- Add what there is at some paths, and at the directories above them. -/
def gather (files : FileTree) (paths : List Path) : IO FileTree :=
  (paths.flatMap pathsTo).foldlM (fun files p => do
    if p.hasNull then return files
    match ← readEntry p with
    | some n => return files.set (FileTree.keyOf p) n
    | none => return files) files

/-- The environment variables. -/
def readEnvironment : IO (List (String × String)) := do
  let bytes ← try IO.FS.readBinFile "/proc/self/environ" catch _ => pure ByteArray.empty
  match Utf8.decode bytes.toList with
  | .error _ => return []
  | .ok chars =>
    return (Text.splitAtChar (Char.ofNat 0) chars).filterMap fun entry =>
      match Text.splitValue entry with
      | (name, some value) => some (name, value)
      | _ => none

/-- The home directories of users, from the lines of the file that lists them. -/
def readUsers : IO (List (String × String)) := do
  let bytes ← try IO.FS.readBinFile "/etc/passwd" catch _ => pure ByteArray.empty
  match Utf8.decode bytes.toList with
  | .error _ => return []
  | .ok chars =>
    return (Text.splitAtChar '\n' chars).filterMap fun line =>
      match (Text.splitAtChar ':' line).map String.ofList with
      | [name, _, _, _, _, home, _] => some (name, home)
      | _ => none

/-- The surroundings of a run, with all files that it may look at. -/
def gatherAll (arguments : List String) : IO Settings.Surroundings := do
  let w : Settings.Surroundings :=
    { files := .empty, environment := ← readEnvironment, users := ← readUsers }
  match Arguments.read arguments with
  | .error _ => return w
  | .ok a =>
    let w := { w with files := ← gather w.files (namedSources w a) }
    return { w with files := ← gather w.files (selectedSources .standard w a) }

/-! ### Writing -/

/-- Carry out the difference between two trees. -/
def carryOut (before after : FileTree) : IO Unit := do
  for (key, n) in after.entries do
    if before.node? key ≠ some n then
      match n with
      | .directory => IO.FS.createDirAll key.text
      | .file bytes => IO.FS.writeBinFile key.text (ByteArray.mk bytes.toArray)
  for (key, _) in before.files do
    if (after.node? key).isNone then IO.FS.removeFile key.text

/-- Show an event. -/
def Event.print : Event → IO Unit
  | .out text => IO.print text
  | .err text => IO.eprint text
  | .usage text => IO.eprint text
  | .log entry => IO.eprintln entry.line

/-- Run a command line; there is no renderer. -/
def runProgram (arguments : List String) : IO UInt32 := do
  let w ← gatherAll arguments
  let (s, exit) := run .standard w none arguments
  carryOut w.files s.files
  s.events.forM Event.print
  return exit.toUInt32

end BorrowGraph.CommandLine

def main (arguments : List String) : IO UInt32 :=
  BorrowGraph.CommandLine.runProgram arguments
