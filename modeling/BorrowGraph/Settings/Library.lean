/-
The library that settings are made with.

Settings are put together from sources: values given directly, variables of the environment,
and files.  Which sources there are, in which order, and what becomes of a failure is the
program's business.  How a source is read, how the sources are merged and how the merged values
are checked is that of a library, and `Library` is what the program asks of one.
-/
import BorrowGraph.Diagnostic
import BorrowGraph.Settings
import BorrowGraph.Settings.Surroundings
import BorrowGraph.Value

namespace BorrowGraph.Settings

/-- Values by keys. -/
abbrev Layer := List (String × Value)

/-- A source of values. -/
inductive Source where
  /-- The values given directly. -/
  | given
  /-- The variables of the environment. -/
  | environment
  /-- The values of a file. -/
  | file (fields : Layer)

/-- The first thing that is wrong with values. -/
inductive Refusal where
  /-- A key that there is not. -/
  | unknown (key : String)
  /-- A value that the key cannot have. -/
  | value (key complaint : String) (v : Value)

/-- What goes wrong inside the library. -/
inductive Problem where
  | refused (r : Refusal)
  | fault (f : Fault)

/-- How the names of the environment variables begin. -/
def variableStart : String := "MIR_DUMP_"

/-- What the program asks of a library.  The library knows the keys with their types and
defaults, that variables begin with `variableStart` and count unless they are empty, and that
no other keys are allowed. -/
structure Library where
  /-- What counts of the name of a key or a variable. -/
  fold : String → String
  /-- Read a value as a text. -/
  readText : Value → Option String
  /-- Read a value as a text that may be missing. -/
  readOptionalText : Value → Option (Option String)
  /-- Read a value as a truth value. -/
  readBool : Value → Option Bool
  /-- Look at the values given, before the sources are asked for.  They may hold values that
  stand in place of all sources. -/
  start : Surroundings → Layer → Except Fault (Option Layer)
  /-- Read the values of a file. -/
  readFile : Surroundings → Path → Except Fault Layer
  /-- Merge sources, the first of which counts most. -/
  combine : Surroundings → Layer → List Source → Except Problem Layer
  /-- Check values, each of them prepared by the program. -/
  validate : (Key → Value → Value) → Layer → Except Refusal Settings
  /-- What is wrong with the values given when a fault comes up while they are checked as one
  value, unless the fault passes through. -/
  asRefusal? : Layer → Fault → Option Refusal

end BorrowGraph.Settings
