/-
Refusals of the operating system.

A refusal has a cause, which fixes its number and wording, and names the path it concerns, or two
paths when a file was to be moved.
-/
import BorrowGraph.Text.Quoted

namespace BorrowGraph

/-- Why the operating system refuses. -/
inductive FileError.Cause where
  | notFound
  | busy
  | alreadyExists
  | notDirectory
  | isDirectory
  | nameTooLong
  /-- Any other refusal, by its number and wording. -/
  | other (number : Nat) (wording : String)
  deriving DecidableEq, Repr

namespace FileError

def Cause.number : Cause → Nat
  | .notFound => 2
  | .busy => 16
  | .alreadyExists => 17
  | .notDirectory => 20
  | .isDirectory => 21
  | .nameTooLong => 36
  | .other n _ => n

def Cause.wording : Cause → String
  | .notFound => "No such file or directory"
  | .busy => "Device or resource busy"
  | .alreadyExists => "File exists"
  | .notDirectory => "Not a directory"
  | .isDirectory => "Is a directory"
  | .nameTooLong => "File name too long"
  | .other _ w => w

end FileError

/-- A refusal of the operating system. -/
structure FileError where
  cause : FileError.Cause
  /-- The path concerned. -/
  path : Option String := none
  /-- Where the file at `path` was to be moved. -/
  target : Option String := none
  deriving DecidableEq, Repr

/-- The message of a refusal. -/
def FileError.message (e : FileError) : String :=
  let base := "[Errno " ++ Nat.repr e.cause.number ++ "] " ++ e.cause.wording
  match e.path, e.target with
  | some p, some t => base ++ ": " ++ Text.quote p ++ " -> " ++ Text.quote t
  | some p, none => base ++ ": " ++ Text.quote p
  | none, _ => base

end BorrowGraph
