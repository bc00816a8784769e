/-
The settings of a run.

`Settings.Key` names the settings in the order in which they are shown and checked.
-/
import BorrowGraph.Path
import BorrowGraph.Text.Quoted

namespace BorrowGraph

/-- The settings of a run. -/
structure Settings where
  /-- The directory with the listings. -/
  logDir : String := "./log/"
  /-- The directory with the facts, into which reports are written. -/
  factsDir : String := "nll-facts"
  /-- The only function to be reported, if set. -/
  proc : Option String := none
  /-- Whether anything is reported. -/
  dumpInfo : Bool := true
  /-- Whether a report shows the table of locals. -/
  showVariables : Bool := true
  /-- Whether a report numbers the statements. -/
  showIndices : Bool := true
  /-- Whether a report shows the issued loans, and everything is logged. -/
  debugInfo : Bool := false
  deriving DecidableEq, Repr

namespace Settings

/-- The names of the settings. -/
inductive Key where
  | logDir
  | factsDir
  | proc
  | dumpInfo
  | showVariables
  | showIndices
  | debugInfo
  deriving DecidableEq, Repr

namespace Key

def all : List Key :=
  [.logDir, .factsDir, .proc, .dumpInfo, .showVariables, .showIndices, .debugInfo]

def text : Key → String
  | .logDir => "log_dir"
  | .factsDir => "facts_dir"
  | .proc => "dump_mir_proc"
  | .dumpInfo => "dump_mir_info"
  | .showVariables => "dump_show_temp_variables"
  | .showIndices => "dump_show_statement_indices"
  | .debugInfo => "dump_debug_info"

end Key

/-- A truth value as it is shown. -/
def boolText (b : Bool) : String :=
  if b then "True" else "False"

/-- The value of a setting as it is shown. -/
def shown (s : Settings) : Key → String
  | .logDir => Text.quote s.logDir
  | .factsDir => Text.quote s.factsDir
  | .proc => (s.proc.map Text.quote).getD "None"
  | .dumpInfo => boolText s.dumpInfo
  | .showVariables => boolText s.showVariables
  | .showIndices => boolText s.showIndices
  | .debugInfo => boolText s.debugInfo

/-- All settings, one in a line. -/
def text (s : Settings) : String :=
  "\n".intercalate (Key.all.map fun k => k.text ++ " = " ++ s.shown k)

/-! ### Paths -/

/-- The directory with the facts of a function. -/
def factsPath (s : Settings) (name : String) : Path :=
  (Path.ofText s.factsDir).child name

/-- The listing of a function. -/
def listingPath (s : Settings) (name : String) : Path :=
  ((Path.ofText s.logDir).child "mir").child ("rustc." ++ name ++ ".-------.renumber.0.mir")

/-- Where the report of a function goes. -/
def reportPath (s : Settings) (name : String) : Path :=
  (s.factsPath name).child "graph.dot"

end Settings
end BorrowGraph
