/-
A run of the command line.

`CommandLine.run` is a function from the arguments, the files and the environment, and what an
external renderer does, to the events of the run in their order, the files afterwards, and the
exit code.  The library that settings are made with is a parameter.
-/
import BorrowGraph.CommandLine.Arguments
import BorrowGraph.CommandLine.Help
import BorrowGraph.Pipeline
import BorrowGraph.Settings.Load

namespace BorrowGraph.CommandLine

/-! ### Events and exits -/

/-- Something that is shown to the user. -/
inductive Event where
  /-- A text on standard output. -/
  | out (text : String)
  /-- A text on standard error. -/
  | err (text : String)
  /-- How the program is called, on standard error. -/
  | usage (text : String)
  | log (entry : LogEntry)
  deriving DecidableEq, Repr

/-- Every selected function was reported. -/
def exitOk : Nat := 0

/-- Some function could not be reported. -/
def exitFailed : Nat := 1

/-- Nothing can be reported as things are. -/
def exitUnusable : Nat := 2

/-- The user interrupted the run. -/
def exitInterrupted : Nat := 130

/-! ### Rendering -/

/-- What the external renderer does when it is called. -/
inductive Rendering where
  | done
  /-- There is no such program. -/
  | missing (reason : String)
  | failed (reason : String)
  /-- The user interrupts. -/
  | interrupted
  /-- The renderer ends the run. -/
  | exited
  | crashed (text : String)
  deriving DecidableEq, Repr

/-- The external renderer: not installed, or what it does call by call; after that, it does its
work. -/
abbrev Renderer := Option (List Rendering)

/-- A call of the renderer. -/
structure RenderCall where
  engine : String
  format : String
  path : Path
  deriving DecidableEq, Repr

/-! ### Sessions -/

/-- The state of a run. -/
structure Session where
  files : FileTree
  /-- From which level on log entries are shown. -/
  threshold : Level
  events : List Event := []
  rendered : List RenderCall := []

namespace Session

def logSource : String := "mir_dump"

def add (s : Session) (e : Event) : Session :=
  { s with events := s.events ++ [e] }

/-- Show those log entries that are important enough. -/
def addLog (s : Session) (entries : List LogEntry) : Session :=
  { s with events := s.events ++ (entries.filter (LogEntry.reaches s.threshold)).map .log }

def info (s : Session) (message : String) : Session :=
  s.addLog [⟨.info, logSource, message⟩]

def error (s : Session) (message : String) : Session :=
  s.addLog [⟨.error, logSource, message⟩]

/-- End with a fault that nothing else handles. -/
def unhandled (s : Session) (f : Fault) : Session × Nat :=
  (s.error ("Unhandled exception: " ++ f.text), exitUnusable)

/-- End with a diagnostic. -/
def refuse (s : Session) (d : Diagnostic) (exit : Nat) : Session × Nat :=
  (s.error d.message, exit)

end Session

/-- From which level on log entries are shown. -/
def thresholdOf (verbosity : Nat) : Level :=
  match verbosity with
  | 0 => .warning
  | 1 => .info
  | _ => .debug

/-! ### The parts of a run -/

namespace Arguments

/-- The settings that the arguments give directly. -/
def overrides (a : Arguments) : Settings.Layer :=
  let given (v : Option Given) : Value := (v.map Given.value).getD .null
  let whenSet (b : Bool) (v : Bool) : Value := if b then .bool v else .null
  [(Settings.Key.proc.text, given a.proc), (Settings.Key.factsDir.text, given a.factsDir),
    (Settings.Key.logDir.text, given a.logDir),
    (Settings.Key.showVariables.text, whenSet a.hideVariables false),
    (Settings.Key.showIndices.text, whenSet a.hideIndices false),
    (Settings.Key.debugInfo.text, whenSet a.debugInfo true)]

/-- The settings of a run. -/
def loadSettings (a : Arguments) (lib : Settings.Library) (w : Settings.Surroundings) :
    Task Unit Settings :=
  match a.config with
  | none => Settings.load lib w none a.overrides
  | some .nothing => Task.abort .wrongShape
  | some (.text file) => do
    let path := Path.ofText file
    if ← Task.ofExcept ((w.files.isFile path).mapError .fault) then
      Settings.load lib w (some path) a.overrides
    else
      Task.refuse (Settings.diagnostic "configuration file not found" [("path", file)])

end Arguments

/-- The functions of all bundles. -/
def loadBundles (files : FileTree) : List String → Task Unit (List Function)
  | [] => return []
  | file :: rest => do
    let functions ← Bundle.load files (Path.ofText file)
    return functions ++ (← loadBundles files rest)

/-- Render the written reports, and end with the worst exit code. -/
def renderEach (format : String) (s : Session) (exit : Nat) :
    List Rendering → List (String × Path) → Session × Nat
  | _, [] => (s, exit)
  | outcomes, (name, path) :: rest =>
    let s := { s with rendered := s.rendered ++ [⟨"dot", format, path⟩] }
    match outcomes.headD .done with
    | .done =>
      renderEach format (s.info ("Rendered " ++ path.text ++ "." ++ format)) exit outcomes.tail rest
    | .missing reason => (s.error ("Graphviz executable not found: " ++ reason), exitUnusable)
    | .failed reason =>
      renderEach format (s.error ("Rendering " ++ name ++ " failed: " ++ reason))
        (max exit exitFailed) outcomes.tail rest
    | .interrupted => (s.info "Interrupted by user.", exitInterrupted)
    | .exited => (s, exitUnusable)
    | .crashed text => s.unhandled (.rendererFailed text)

/-- Render the written reports if that was asked for. -/
def renderAll (a : Arguments) (renderer : Renderer) (s : Session) (exit : Nat)
    (written : List (String × Path)) : Session × Nat :=
  match a.render with
  | none | some .nothing => (s, exit)
  | some (.text format) =>
    if format.isEmpty then (s, exit)
    else
      match renderer with
      | some outcomes => renderEach format s exit outcomes written
      | none =>
        (s.error "graphviz is not installed.  Install it with: pip install mir-dump[viz]",
          exitUnusable)

/-- Print what became of the functions. -/
def printSummary (s : Session) (r : Summary) : Session :=
  let out := r.written.map fun (name, path) => Event.out (name ++ ": " ++ path.text ++ "\n")
  let err := r.failed.map fun (name, d) => Event.err (name ++ ": FAILED " ++ d.message ++ "\n")
  { s with events := s.events ++ out ++ err }

/-- Report the functions and tell what became of them. -/
def report (a : Arguments) (settings : Settings) (renderer : Renderer) (s : Session)
    (functions : List Function) : Session × Nat :=
  let pipeline : Pipeline := { settings := settings, keepGoing := a.keepGoing }
  let (result, l) := (pipeline.run functions).start { files := s.files }
  let s := { s with files := l.state.files }.addLog l.log
  match result with
  | .error (.fault f) => s.unhandled f
  | .error (.diagnostic d) => s.refuse d (if d.kind.isRecoverable then exitFailed else exitUnusable)
  | .ok () =>
    let summary := l.state.summary
    renderAll a renderer (printSummary s summary) (if summary.ok then exitOk else exitFailed)
      summary.written

/-- Load the bundles and report their functions. -/
def reportBundles (a : Arguments) (settings : Settings) (renderer : Renderer) (s : Session) :
    Session × Nat :=
  let (result, l) := (loadBundles s.files a.bundles).start ()
  let s := s.addLog l.log
  match result with
  | .error (.fault f) => s.unhandled f
  | .error (.diagnostic d) => s.refuse d exitUnusable
  | .ok functions => report a settings renderer s functions

/-- Do what the arguments ask for. -/
def execute (lib : Settings.Library) (a : Arguments) (w : Settings.Surroundings)
    (renderer : Renderer) :
    Session × Nat :=
  let s : Session := { files := w.files, threshold := thresholdOf a.verbosity }
  let (result, l) := (a.loadSettings lib w).start ()
  let s := s.addLog l.log
  match result with
  | .error (.fault f) => s.unhandled f
  | .error (.diagnostic d) => s.refuse d exitUnusable
  | .ok settings =>
    let s := if settings.debugInfo then { s with threshold := .debug } else s
    if a.printConfig then (s.add (.out (settings.text ++ "\n")), exitOk)
    else if a.bundles.isEmpty then (s.error "no MIR bundle given", exitUnusable)
    else reportBundles a settings renderer s

/-- Run a command line. -/
def run (lib : Settings.Library) (w : Settings.Surroundings) (renderer : Renderer)
    (arguments : List String) : Session × Nat :=
  let s : Session := { files := w.files, threshold := .warning }
  match Arguments.read arguments with
  | .error .help => (s.add (.out (helpText (widthOf w))), exitOk)
  | .error .version => (s.add (.out (versionText ++ "\n")), exitOk)
  | .error (.usage e) =>
    ((s.add (.usage (usageText (widthOf w)))).add
      (.err (programName ++ ": error: " ++ e.message ++ "\n")), exitUnusable)
  | .ok a => execute lib a w renderer

end BorrowGraph.CommandLine
