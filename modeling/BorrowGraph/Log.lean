/-
Log entries and computations that keep a log.

A computation that fails keeps the state it reached and the entries it logged; `Task` is the
shape of all computations that read sources, and `Task.within` runs one with a state of its
own.
-/
import BorrowGraph.Diagnostic

namespace BorrowGraph

/-- How important a log entry is. -/
inductive Level where
  | debug
  | info
  | warning
  | error
  deriving DecidableEq, Repr

namespace Level

def rank : Level → Nat
  | .debug => 0
  | .info => 1
  | .warning => 2
  | .error => 3

/-- The level in five characters. -/
def label : Level → String
  | .debug => "DEBUG"
  | .info => "INFO "
  | .warning => "WARNI"
  | .error => "ERROR"

end Level

/-- One log entry: its level, the part of the program it comes from, and its message. -/
structure LogEntry where
  level : Level
  source : String
  message : String
  deriving DecidableEq, Repr

namespace LogEntry

/-- The entry as a line. -/
def line (e : LogEntry) : String :=
  "[" ++ e.level.label ++ "] " ++ e.source ++ ": " ++ e.message

/-- Whether an entry is shown at a threshold. -/
def reaches (threshold : Level) (e : LogEntry) : Bool :=
  threshold.rank ≤ e.level.rank

end LogEntry

/-- A state together with the entries logged so far, oldest first. -/
structure Logged (σ : Type) where
  state : σ
  log : List LogEntry := []
  deriving Repr

/-- A computation on a state that may fail; the state and the log survive a failure. -/
abbrev Task (σ : Type) := ExceptT Failure (StateM (Logged σ))

namespace Task

variable {σ τ α : Type}

/-- Run a computation from a state, with an empty log. -/
def start (t : Task σ α) (s : σ) : Except Failure α × Logged σ :=
  t.run ⟨s, []⟩

def note (e : LogEntry) : Task σ Unit :=
  modify fun s => { s with log := s.log ++ [e] }

def debug (source message : String) : Task σ Unit :=
  note ⟨.debug, source, message⟩

def info (source message : String) : Task σ Unit :=
  note ⟨.info, source, message⟩

def error (source message : String) : Task σ Unit :=
  note ⟨.error, source, message⟩

def getState : Task σ σ := do
  return (← get).state

def setState (s : σ) : Task σ Unit :=
  modify fun l => { l with state := s }

/-- Fail with a diagnostic. -/
def refuse (d : Diagnostic) : Task σ α :=
  throw (.diagnostic d)

/-- Fail with a fault. -/
def abort (f : Fault) : Task σ α :=
  throw (.fault f)

/-- Run a computation with a state of its own inside another one: its entries join the log, and its
final state is part of the result. -/
def within (s : τ) (t : Task τ α) : Task σ (α × τ) := do
  let (result, inner) := t.run ⟨s, []⟩
  modify fun l => { l with log := l.log ++ inner.log }
  match result with
  | .ok a => return (a, inner.state)
  | .error e => throw e

/-- Run a computation on a part of the state; the part survives a failure, too. -/
def onPart (view : σ → τ) (update : σ → τ → σ) (t : Task τ α) : Task σ α := do
  let l ← get
  let (result, inner) := t.run ⟨view l.state, []⟩
  set { state := update l.state inner.state, log := l.log ++ inner.log : Logged σ }
  match result with
  | .ok a => return a
  | .error e => throw e

/-- The outcome of a computation, be it a failure. -/
def outcome (t : Task σ α) : Task σ (Except Failure α) :=
  tryCatch (do return .ok (← t)) fun e => return .error e

/-- A result that was computed without state. -/
def ofExcept (r : Except Failure α) : Task σ α :=
  match r with
  | .ok a => return a
  | .error e => throw e

end Task
end BorrowGraph
