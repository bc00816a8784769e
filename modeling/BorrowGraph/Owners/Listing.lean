/-
Reading the regions of locals from a listing.

A listing shows a function with its regions numbered.  Its signature names the arguments, and
each `let` line a local; those whose type is a reference give a local its region.  All other
lines are passed over.
-/
import BorrowGraph.FileTree
import BorrowGraph.Log
import BorrowGraph.Owners
import BorrowGraph.Text.Lines
import BorrowGraph.Text.Word

namespace BorrowGraph.Owners

def logSource : String := "mir_dump.regions"

/-! ### Patterns of a line -/

/-- Skip the blanks at the start. -/
def skipBlanks (cs : List Char) : List Char :=
  cs.dropWhile Text.isBlank

/-- Skip the blanks at the start, of which there must be some. -/
def someBlanks? : List Char → Option (List Char)
  | [] => none
  | c :: cs => if Text.isBlank c then some (skipBlanks cs) else none

/-- A run of digits at the start, and what follows it. -/
def digits? (cs : List Char) : Option (List Char × List Char) :=
  let run := cs.takeWhile Text.isDigit
  if run.isEmpty then none else some (run, cs.dropWhile Text.isDigit)

/-- The spelled local and region of a declaration with a reference type: a local, a colon, and a
reference with its region, which a blank follows. -/
def declaration? (cs : List Char) : Option (List Char × List Char) := do
  let cs ← Text.stripStart? ['_'] cs
  let (name, cs) ← digits? cs
  let cs ← Text.stripStart? [':'] cs
  let cs ← Text.stripStart? "&'_#".toList (skipBlanks cs)
  let (region, cs) ← digits? cs
  match cs with
  | 'r' :: c :: _ => if Text.isBlank c then some (name, region) else none
  | _ => none

/-- An opening brace and blanks, or nothing. -/
def isOpening (cs : List Char) : Bool :=
  match skipBlanks cs with
  | [] => true
  | c :: rest => c = '\x7b' && (skipBlanks rest).isEmpty

/-- What may follow the arguments of a signature: an opening, or first an arrow and a result type on
one line. -/
def isTail (cs : List Char) : Bool :=
  isOpening cs ||
    match skipBlanks cs with
    | '-' :: '>' :: rest => isOpening ((skipBlanks rest).dropWhile fun c => c != '\n')
    | _ => false

/-- The arguments of a signature: all up to the last closing parenthesis behind which the line may
end. -/
def arguments? : List Char → Option (List Char)
  | [] => none
  | c :: cs =>
    if c = '\n' then none
    else
      match arguments? cs with
      | some args => some (c :: args)
      | none => if c = ')' && isTail cs then some [] else none

/-- A character of a function name. -/
def isNameChar (c : Char) : Bool :=
  Text.isWord c || c = ':' || c = '<' || c = '>'

/-- The arguments of a line that is a signature. -/
def signature? (line : List Char) : Option (List Char) := do
  let cs ← Text.stripStart? ['f', 'n'] (skipBlanks line)
  let cs ← someBlanks? cs
  if (cs.takeWhile isNameChar).isEmpty then none
  else
    let cs ← Text.stripStart? ['('] (cs.dropWhile isNameChar)
    arguments? cs

/-- The declaration of a `let` line. -/
def letDeclaration? (line : List Char) : Option (List Char × List Char) := do
  let cs ← someBlanks? line
  let cs ← Text.stripStart? "let".toList cs
  let cs ← someBlanks? cs
  match Text.stripStart? "mut".toList cs with
  | some rest => declaration? (← someBlanks? rest)
  | none => declaration? cs

/-- The declarations of a line. -/
def declarations (line : List Char) : List (List Char × List Char) :=
  match signature? line with
  | some args =>
    (Text.splitAtText [',', ' '] args).filterMap fun a => declaration? (Text.trim a ++ [' '])
  | none => (letDeclaration? line).toList

/-! ### Tables from lines -/

/-- The entry logged when a local gets another region. -/
def redeclared (o : Owners) (n : Local) (r : Region) : List LogEntry :=
  match o.regionOf n with
  | none => []
  | some old =>
    if old = r then []
    else
      [⟨.debug, logSource, "Local " ++ Local.text n ++ " re-declared with region "
        ++ Region.text r ++ " (was " ++ Region.text old ++ ")"⟩]

/-- Enter declarations into a table. -/
def enter : List (List Char × List Char) → Task Owners Unit
  | [] => return ()
  | (name, region) :: rest => do
    let n ← Task.ofExcept ((Spelling.number name).mapError .fault)
    let r ← Task.ofExcept ((Spelling.number region).mapError .fault)
    let o ← Task.getState
    (redeclared o n r).forM Task.note
    Task.setState (o.insert n r)
    enter rest

/-- Enter the declarations of all lines. -/
def enterLines : List (List Char) → Task Owners Unit
  | [] => return ()
  | line :: rest => do
    enter (declarations line)
    enterLines rest

/-- The table that lines give. -/
def readLines {σ : Type} (lines : List (List Char)) : Task σ Owners := do
  return (← Task.within Owners.empty (enterLines lines)).2

/-! ### Files -/

/-- The diagnostic for a listing that cannot be read. -/
def listingDiagnostic (path : Path) (code : ErrorCode) (text : String) : Diagnostic :=
  { kind := .factLoad, code := code, text := text, context := [("path", path.text)] }

/-- The failure of a file that cannot be read. -/
def listingFailure (path : Path) : Fault → Failure
  | .refused e =>
    .diagnostic
      (listingDiagnostic path .regionsNotFound ("cannot read renumber MIR: " ++ e.message))
  | f => .fault f

/-- The lines that are known to be complete before a place where decoding fails. -/
def completeLines (chars : List Char) : List (List Char) :=
  let settled := if chars.getLast? = some '\r' then chars.dropLast else chars
  (Text.linesWithEnds (Text.unifyLineEnds settled)).filter fun l => l.getLast? = some '\n'

/-- Read a listing, which is decoded piece by piece: lines before a piece that is not UTF-8 are
still entered. -/
def readBytes {σ : Type} (path : Path) (bytes : List UInt8) : Task σ Owners :=
  match Utf8.decodeChunks bytes with
  | (chars, none) => readLines (Text.linesWithEnds (Text.unifyLineEnds chars))
  | (chars, some e) => do
    let _ ← readLines (completeLines chars)
    Task.refuse
      (listingDiagnostic path .malformedFact ("renumber MIR is not valid UTF-8: " ++ e.message))

/-- Read the listing at a path. -/
def load {σ : Type} (files : FileTree) (path : Path) : Task σ Owners := do
  Task.debug logSource ("Renumber path: " ++ path.text)
  let bytes ← Task.ofExcept ((files.readBytes path).mapError (listingFailure path))
  let owners ← readBytes path bytes
  Task.debug logSource ("Loaded " ++ Nat.repr owners.regions.length ++ " variable region(s)")
  return owners

end BorrowGraph.Owners
