/-
Reporting the functions of a compilation.

`Pipeline.select` chooses the functions, `Pipeline.dumpAll` writes their reports, and the
summary in the state says what became of each.  A failure that concerns one function ends the
run, unless the pipeline keeps going; other failures always end it.
-/
import BorrowGraph.Bundle
import BorrowGraph.Report.Write

namespace BorrowGraph

/-- What became of the functions. -/
structure Summary where
  /-- The functions whose reports were written, with the paths. -/
  written : List (String × Path) := []
  /-- The functions that were not to be reported. -/
  skipped : List String := []
  /-- The functions whose reports failed, with the reasons. -/
  failed : List (String × Diagnostic) := []
  deriving Repr

namespace Summary

/-- Whether no report failed. -/
def ok (s : Summary) : Bool :=
  s.failed.isEmpty

def text (s : Summary) : String :=
  "DumpSummary(written=" ++ Nat.repr s.written.length ++ ", skipped=" ++ Nat.repr s.skipped.length
    ++ ", failed=" ++ Nat.repr s.failed.length ++ ")"

def addWritten (s : Summary) (name : String) (path : Path) : Summary :=
  { s with written := s.written ++ [(name, path)] }

def addSkipped (s : Summary) (name : String) : Summary :=
  { s with skipped := s.skipped ++ [name] }

def addFailed (s : Summary) (name : String) (d : Diagnostic) : Summary :=
  { s with failed := s.failed ++ [(name, d)] }

end Summary

/-- The state of a run. -/
structure Run where
  files : FileTree
  summary : Summary := {}

/-- How functions are reported. -/
structure Pipeline where
  settings : Settings
  solver : Solver := .default
  /-- Whether the other functions are reported after one has failed. -/
  keepGoing : Bool := false

namespace Pipeline

def logSource : String := "mir_dump.driver"

/-- How the names of specification functions end. -/
def specificationEnd : String := "__spec"

def isSpecification (f : Function) : Bool :=
  specificationEnd.toList.isSuffixOf f.name.toList

/-- Whether a function is to be reported. -/
def isSelected (p : Pipeline) (f : Function) : Bool :=
  !isSpecification f &&
    match p.settings.proc with
    | none => true
    | some name => f.name = name

def summarize (change : Summary → Summary) : Task Run Unit := do
  let s ← Task.getState
  Task.setState { s with summary := change s.summary }

/-- Choose the functions to be reported; the others are skipped. -/
def select (p : Pipeline) : List Function → Task Run (List Function)
  | [] => return []
  | f :: fs => do
    if p.isSelected f then
      return f :: (← p.select fs)
    else
      if isSpecification f then
        Task.debug logSource ("Skipping specification function " ++ f.name)
      summarize fun s => s.addSkipped f.name
      p.select fs

/-- The report of a function. -/
def analyze (p : Pipeline) (f : Function) : Task FileTree Report := do
  let path := fileName f.path
  Task.debug logSource ("Analyzing " ++ f.name ++ " (" ++ path ++ ")")
  let a ← Analysis.load (← Task.getState) f.body (p.settings.factsPath path)
    (p.settings.listingPath path) p.solver
  Task.debug logSource a.summary
  Report.make f.body a f.initialization f.name path

/-- Write the report of a function. -/
def dump (p : Pipeline) (f : Function) : Task FileTree Path := do
  Task.info logSource ("Dumping MIR info for " ++ f.path)
  let r ← p.analyze f
  Report.save p.settings r (p.settings.reportPath r.path)

/-- A computation on the files of a run. -/
def onFiles {α : Type} (t : Task FileTree α) : Task Run α :=
  Task.onPart Run.files (fun s files => { s with files := files }) t

/-- Enter the outcome for a function into the summary. -/
def settle (p : Pipeline) (f : Function) : Except Failure Path → Task Run Unit
  | .ok path => summarize fun s => s.addWritten f.name path
  | .error (.diagnostic d) =>
    if d.kind.isRecoverable && p.keepGoing then do
      Task.error logSource ("Failed to dump " ++ f.name ++ ": " ++ d.message)
      summarize fun s => s.addFailed f.name d
    else Task.refuse d
  | .error e => throw e

/-- Write the reports of functions, one after the other. -/
def dumpEach (p : Pipeline) : List Function → Task Run Unit
  | [] => return ()
  | f :: fs => do
    p.settle f (← Task.outcome (onFiles (p.dump f)))
    p.dumpEach fs

/-- Write the reports of functions, unless that is switched off. -/
def dumpAll (p : Pipeline) (fs : List Function) : Task Run Unit :=
  if p.settings.dumpInfo then p.dumpEach fs
  else Task.info logSource "dump_mir_info is disabled; nothing to do"

/-- Select the functions and write their reports. -/
def run (p : Pipeline) (fs : List Function) : Task Run Unit := do
  p.dumpAll (← p.select fs)

end Pipeline
end BorrowGraph
