/-
What the command line says about itself.

The texts are laid out for a width, which the environment may give.  `usageText` shows how the
program is called, and `helpText` also what each argument means.
-/
import BorrowGraph.CommandLine.Arguments
import BorrowGraph.Number.Decimal
import BorrowGraph.Settings.Surroundings
import BorrowGraph.Text.Wrap

namespace BorrowGraph.CommandLine

/-- The name of the program. -/
def programName : String := "mir_dump"

/-- The program with its version. -/
def versionText : String := programName ++ " 0.1.0"

/-- What the program does. -/
def description : String :=
  "Dump per-program-point borrow-check information as Graphviz graphs."

/-! ### Arguments -/

/-- What stands for the value of an option. -/
def Flag.placeholder? : Flag → Option String
  | .config => some "FILE"
  | .proc => some "NAME"
  | .factsDir | .logDir => some "DIR"
  | .render => some "FORMAT"
  | _ => none

/-- What an option means; the options that name directories go without saying. -/
def Flag.meaning : Flag → String
  | .help => "show this help message and exit"
  | .version => "show program's version number and exit"
  | .verbose => "Increase verbosity (-v INFO, -vv DEBUG)."
  | .config => "TOML configuration file (overrides $MIR_DUMP_CONFIG)."
  | .proc => "Only dump the function with this name."
  | .factsDir | .logDir => ""
  | .hideVariables => "Do not emit the table of locals."
  | .hideIndices => "Do not emit the statement-number column."
  | .debugInfo => "Emit the synthesized-loans table and log at DEBUG level."
  | .keepGoing => "Continue with the next function after a failure."
  | .render => "Render each graph.dot with Graphviz (svg, pdf, png ...)."
  | .printConfig => "Print the effective configuration and exit."

/-- A name of an option with what stands for its value. -/
def Flag.withPlaceholder (f : Flag) (name : String) : String :=
  match f.placeholder? with
  | some value => name ++ " " ++ value
  | none => name

/-- An argument as the help shows it. -/
structure Entry where
  /-- How the argument is given on a command line. -/
  call : String
  /-- All ways to write the argument. -/
  header : String
  meaning : String
  deriving DecidableEq, Repr

/-- The entry of an option. -/
def Entry.ofFlag (f : Flag) : Entry where
  call := "[" ++ f.withPlaceholder (f.names.headD "") ++ "]"
  header := ", ".intercalate (f.names.map f.withPlaceholder)
  meaning := f.meaning

/-- The entries of the options. -/
def optionEntries : List Entry :=
  Flag.all.map .ofFlag

/-- The entries of the arguments that are no options. -/
def wordEntries : List Entry :=
  [{ call := "[BUNDLE ...]", header := "BUNDLE",
     meaning := "JSON bundle(s) exported by the host driver." }]

/-! ### Width -/

/-- The environment variable that holds the number of columns. -/
def columnsVariable : String := "COLUMNS"

/-- The number of columns if the environment does not give it. -/
def usualColumns : Int := 80

/-- The number of columns: what the environment gives, if it is a positive number. -/
def columnsOf (w : Settings.Surroundings) : Int :=
  match (w.lookup? columnsVariable).map fun text => Decimal.readInteger text.toList with
  | some (.ok n) => if 0 < n then n else usualColumns
  | _ => usualColumns

/-- The width of the texts, which leave two columns free.  It may be less than nothing. -/
def widthOf (w : Settings.Surroundings) : Int :=
  columnsOf w - 2

/-! ### Layout -/

/-- A number of blanks. -/
def blanks (n : Nat) : String :=
  String.ofList (List.replicate n ' ')

/-- Lay out parts in lines, as many in each as fit behind the indentation.  `used` columns of
the current line are taken, and `line` holds its parts, the last one first. -/
def fillFrom (width : Int) (indent used : Nat) (line : List String) :
    List String → List (List String)
  | [] => if line.isEmpty then [] else [line.reverse]
  | part :: rest =>
    if !line.isEmpty && decide (width < used + 1 + part.length) then
      line.reverse :: fillFrom width indent (indent + part.length) [part] rest
    else fillFrom width indent (used + 1 + part.length) (part :: line) rest

/-- The lines of some parts, the first of which begins in column `start`. -/
def fill (width : Int) (indent start : Nat) (parts : List String) : List String :=
  (fillFrom width indent (start - 1) [] parts).map (" ".intercalate ·)

/-- What stands in front of a call. -/
def usageMark : String := "usage: "

/-- The lines that show how the program is called.  If a line is too short for all arguments,
the name of the program stands in front of them, or in a line of its own if it would take too
much of the width. -/
def usageLines (width : Int) : List String :=
  let options := optionEntries.map Entry.call
  let words := wordEntries.map Entry.call
  let whole := " ".intercalate (programName :: options ++ words)
  let mark := usageMark.length
  if mark + whole.length ≤ width then [whole]
  else if 4 * (mark + programName.length : Nat) ≤ 3 * width then
    let indent := mark + programName.length + 1
    match fill width indent mark (programName :: options) ++ fill width indent indent words with
    | first :: rest => first :: rest.map (blanks indent ++ ·)
    | [] => []
  else
    let lines := match fill width mark mark (options ++ words) with
      | [line] => [line]
      | _ => fill width mark mark options ++ fill width mark mark words
    programName :: lines.map (blanks mark ++ ·)

/-- How the program is called. -/
def usageText (width : Int) : String :=
  usageMark ++ "\n".intercalate (usageLines width) ++ "\n"

/-- The indentation of entries. -/
def entryIndent : Nat := 2

/-- The column in which meanings begin: behind the longest header, as long as that leaves most
of the width to the meanings. -/
def meaningColumn (width : Int) : Nat :=
  let longest := ((wordEntries ++ optionEntries).map (·.header.length)).foldl max 0
  let greatest := min 24 (max (width - 20).toNat (2 * entryIndent))
  min (entryIndent + longest + 2) greatest

/-- The least width of meanings. -/
def leastMeaningWidth : Nat := 11

/-- An entry: a short header stands in front of its meaning, a long one above it. -/
def Entry.lines (width : Int) (e : Entry) : List String :=
  let column := meaningColumn width
  let header := blanks entryIndent ++ e.header
  let meaning := Text.wrap (max (width - column).toNat leastMeaningWidth) e.meaning
  match meaning with
  | [] => [header]
  | first :: rest =>
    let later := rest.map (blanks column ++ ·)
    if header.length + 2 ≤ column then
      (header ++ blanks (column - header.length) ++ first) :: later
    else header :: (blanks column ++ first) :: later

/-- Entries under a title. -/
def sectionLines (width : Int) (title : String) (entries : List Entry) : List String :=
  (title ++ ":") :: entries.flatMap (·.lines width)

/-- What the program does and what its options mean. -/
def helpText (width : Int) : String :=
  let lines := [description, ""] ++ sectionLines width "positional arguments" wordEntries ++ [""]
    ++ sectionLines width "options" optionEntries
  usageText width ++ "\n" ++ String.join (lines.map (· ++ "\n"))

end BorrowGraph.CommandLine
