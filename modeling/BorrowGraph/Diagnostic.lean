/-
Diagnostics: coded errors with a context.

Every diagnostic has a kind, which says how far it reaches, a code, a text and a context of named
values, which are appended to the text in the order of their names.
-/
import BorrowGraph.Fault

namespace BorrowGraph

/-- The stage of a run to which an error code belongs. -/
inductive Stage where
  | configuration
  | loading
  | rendering
  | internal
  deriving DecidableEq, Repr

namespace Stage

def all : List Stage := [.configuration, .loading, .rendering, .internal]

/-- The stage as it is written in reports. -/
def text : Stage → String
  | .configuration => "configuration"
  | .loading => "loading"
  | .rendering => "rendering"
  | .internal => "internal"

/-- The stage as it is written in shown codes. -/
def label : Stage → String
  | .configuration => "CONFIGURATION"
  | .loading => "LOADING"
  | .rendering => "RENDERING"
  | .internal => "INTERNAL"

/-- The stage with a text. -/
def ofText? (s : String) : Option Stage :=
  all.find? fun stage => stage.text = s

end Stage

/-- An error code: a family and a number, with the stage it belongs to. -/
structure ErrorCode where
  family : String
  number : Int
  stage : Stage
  deriving DecidableEq, Repr

namespace ErrorCode

/-- A number of at least four characters, its sign included. -/
def numberText (n : Int) : String :=
  if n < 0 then "-" ++ Decimal.padded 3 n.natAbs else Decimal.padded 4 n.natAbs

/-- The code as it stands in messages. -/
def text (c : ErrorCode) : String :=
  c.family ++ "-" ++ numberText c.number

/-- The code with its stage. -/
def shown (c : ErrorCode) : String :=
  "ErrorCode(" ++ Text.quote c.text ++ ", " ++ c.stage.label ++ ")"

/-- Two codes are the same when family and number agree, whatever their stages. -/
def same (c d : ErrorCode) : Bool :=
  c.family == d.family && c.number == d.number

/-- The codes that differ from all before them. -/
def distinct (codes : List ErrorCode) : List ErrorCode :=
  codes.foldl (fun seen c => if seen.any c.same then seen else seen ++ [c]) []

/-- Whether a text is the text of the code. -/
def sameText (c : ErrorCode) (s : String) : Bool :=
  c.text == s

/-! ### The codes in use -/

def invalidConfigFile : ErrorCode := ⟨"MIRDUMP", 1001, .configuration⟩
def invalidConfigValue : ErrorCode := ⟨"MIRDUMP", 1002, .configuration⟩
def factsNotFound : ErrorCode := ⟨"MIRDUMP", 2001, .loading⟩
def malformedFact : ErrorCode := ⟨"MIRDUMP", 2002, .loading⟩
def regionsNotFound : ErrorCode := ⟨"MIRDUMP", 2003, .loading⟩
def bundleNotFound : ErrorCode := ⟨"MIRDUMP", 2101, .loading⟩
def malformedBundle : ErrorCode := ⟨"MIRDUMP", 2102, .loading⟩
def writeFailed : ErrorCode := ⟨"MIRDUMP", 3001, .rendering⟩
def unsupportedTerminator : ErrorCode := ⟨"MIRDUMP", 3002, .rendering⟩
def internalError : ErrorCode := ⟨"MIRDUMP", 9000, .internal⟩
def duplicateRegionOwner : ErrorCode := ⟨"MIRDUMP", 9001, .internal⟩
def unknownPoint : ErrorCode := ⟨"MIRDUMP", 9002, .internal⟩
def pointsFrozen : ErrorCode := ⟨"MIRDUMP", 9003, .internal⟩

end ErrorCode

/-- The kinds of diagnostics. -/
inductive Diagnostic.Kind where
  /-- Any error of the tool. -/
  | general
  /-- The facts contradict themselves; the run cannot go on. -/
  | consistency
  /-- A settings file or value cannot be used. -/
  | configuration
  /-- A terminator has no edges that could be drawn. -/
  | unsupportedTerminator
  /-- The current function cannot be reported. -/
  | functionDump
  /-- The facts of the current function are missing or corrupt. -/
  | factLoad
  /-- A bundle is missing or corrupt. -/
  | bundleLoad
  /-- The report of the current function cannot be written. -/
  | reportWrite
  deriving DecidableEq, Repr

namespace Diagnostic.Kind

/-- The next more general kind. -/
def parent? : Kind → Option Kind
  | .general => none
  | .consistency | .configuration | .unsupportedTerminator | .functionDump => some .general
  | .factLoad | .bundleLoad | .reportWrite => some .functionDump

/-- The code of a diagnostic that is given none. -/
def defaultCode : Kind → ErrorCode
  | .general => .internalError
  | .consistency => .unknownPoint
  | .configuration => .invalidConfigValue
  | .unsupportedTerminator => .unsupportedTerminator
  | .functionDump => .writeFailed
  | .factLoad => .malformedFact
  | .bundleLoad => .malformedBundle
  | .reportWrite => .writeFailed

/-- Whether a kind concerns the current function only, as one of the failures to dump it. -/
def isFunctionDump : Kind → Bool
  | .functionDump | .factLoad | .bundleLoad | .reportWrite => true
  | _ => false

/-- Whether a run may go on with the next function. -/
def isRecoverable (k : Kind) : Bool :=
  k.isFunctionDump || k == .unsupportedTerminator

end Diagnostic.Kind

/-- A coded error with its context. -/
structure Diagnostic where
  kind : Diagnostic.Kind
  code : ErrorCode
  text : String
  context : List (String × String) := []
  /-- The function concerned, if it was recorded. -/
  function : Option String := none
  deriving DecidableEq, Repr

namespace Diagnostic

/-- The context in the order of its names. -/
def sortedContext (d : Diagnostic) : List (String × String) :=
  d.context.mergeSort fun a b => decide (a.1 ≤ b.1)

/-- The message: code, text and, if there is any, the context. -/
def message (d : Diagnostic) : String :=
  let base := "[" ++ d.code.text ++ "] " ++ d.text
  if d.context.isEmpty then base
  else base ++ " (" ++ ", ".intercalate (d.sortedContext.map fun (k, v) => k ++ "=" ++ v) ++ ")"

end Diagnostic

/-- What ends a computation: a diagnostic, or a fault that no diagnostic wraps. -/
inductive Failure where
  | diagnostic (d : Diagnostic)
  | fault (f : Fault)
  deriving DecidableEq, Repr

namespace Failure

/-- The text by which a failure is logged. -/
def text : Failure → String
  | .diagnostic d => d.message
  | .fault f => f.text

end Failure
end BorrowGraph
