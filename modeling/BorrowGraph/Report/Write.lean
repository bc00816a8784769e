/-
Writing a report.

The report is drawn before any file is touched.  Then its text is written to a temporary file
beside the target, which takes the place of the target; so the target never holds part of a
report.  Each of these steps may be refused, by the state of the files or by the operating
system, and then the temporary file is removed again.  Texts are made of Unicode characters, so
that each of them can be encoded.
-/
import BorrowGraph.FileTree
import BorrowGraph.Report.Dot

namespace BorrowGraph.Report

/-- Steps at which the operating system refuses, with the cause. -/
structure Refusals where
  makeDirectory : Option FileError.Cause := none
  openFile : Option FileError.Cause := none
  /-- Writing fails after some bytes. -/
  write : Option (Nat × FileError.Cause) := none
  replace : Option FileError.Cause := none
  unlink : Option FileError.Cause := none
  deriving Repr

/-- A step that may be refused from outside. -/
def refusable {α : Type} (refusal : Option FileError.Cause) (path : Path)
    (step : Except FileError α) : Except FileError α :=
  match refusal with
  | some c => .error ⟨c, some path.text, none⟩
  | none => step

/-- Make the directory of the target. -/
def prepare (files : FileTree) (directory : Path) (refusals : Refusals) :
    FileTree × Except FileError Unit :=
  match refusals.makeDirectory with
  | some c => (files, .error ⟨c, some directory.text, none⟩)
  | none => files.makeDirectories directory

/-- Write the temporary file and put it in the place of the target. -/
def install (files : FileTree) (temporary target : Path) (content : List UInt8)
    (refusals : Refusals) : FileTree × Except FileError Unit :=
  match refusable refusals.openFile temporary (files.openForWriting temporary) with
  | .error e => (files, .error e)
  | .ok (key, files) =>
    match refusals.write with
    | some (n, c) => (files.set key (.file (content.take n)), .error ⟨c, none, none⟩)
    | none =>
      let files := files.set key (.file content)
      match refusals.replace with
      | some c => (files, .error ⟨c, some temporary.text, some target.text⟩)
      | none =>
        match files.replace temporary target with
        | .ok files => (files, .ok ())
        | .error e => (files, .error e)

/-- Remove the temporary file, if that is possible. -/
def cleanUp (files : FileTree) (temporary : Path) (refusals : Refusals) : FileTree :=
  match refusable refusals.unlink temporary (files.unlink temporary) with
  | .ok files => files
  | .error _ => files

/-- The diagnostic for a report that cannot be written. -/
def writeDiagnostic (r : Report) (target : Path) (e : FileError) : Diagnostic :=
  { kind := .reportWrite
    code := .writeFailed
    text := "cannot write report: " ++ e.message
    context := [("path", target.text)]
    function := some r.path }

/-- Put the text of a report into a file. -/
def place (files : FileTree) (r : Report) (text : String) (target : Path) (refusals : Refusals) :
    FileTree × Except Failure Path :=
  match target.name? with
  | none => (files, .error (.fault (.unnamedPath target.text)))
  | some name =>
    let temporary := target.addSuffix name ".tmp"
    let refuse (files : FileTree) (e : FileError) : FileTree × Except Failure Path :=
      (cleanUp files temporary refusals, .error (.diagnostic (writeDiagnostic r target e)))
    if target.parent.hasNull then (files, .error (.fault .nullInPath))
    else
      let (files, prepared) := prepare files target.parent refusals
      -- Both opening and removing the temporary file fail if its name holds a null character.
      if temporary.hasNull then (files, .error (.fault .nullInPath))
      else
        match prepared with
        | .error e => refuse files e
        | .ok () =>
          match install files temporary target (Utf8.encode text) refusals with
          | (files, .error e) => refuse files e
          | (files, .ok ()) => (files, .ok target)

/-- Write a report to a path. -/
def write (files : FileTree) (s : Settings) (r : Report) (target : Path)
    (refusals : Refusals := {}) : FileTree × Except Failure Path :=
  match Dot.draw s r with
  | .error f => (files, .error (.fault f))
  | .ok text => place files r text target refusals

/-- Write a report into the files of a task. -/
def save (s : Settings) (r : Report) (target : Path) : Task FileTree Path := do
  let (files, result) := write (← Task.getState) s r target
  Task.setState files
  let path ← Task.ofExcept result
  Task.info logSource ("Wrote " ++ path.text)
  return path

end BorrowGraph.Report
