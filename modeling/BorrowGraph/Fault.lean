/-
Faults: what goes wrong below the level of diagnostics.

A fault is a cause with its data.  Some faults have a wording of their own; the others concern
values of an unexpected shape and are only named.  Readers wrap most faults in a diagnostic
that says which input they come from; a fault that no reader wraps ends the run.
-/
import BorrowGraph.Encoding
import BorrowGraph.FileError
import BorrowGraph.Number.Decimal

namespace BorrowGraph

/-- The kinds of atoms that have a spelling. -/
inductive AtomKind where
  | location
  | point
  | region
  | loan
  | local
  deriving DecidableEq, Repr

def AtomKind.noun : AtomKind → String
  | .location => "location"
  | .point => "point"
  | .region => "region"
  | .loan => "loan"
  | .local => "local"

/-- Why a source of settings cannot be read. -/
inductive SourceProblem where
  /-- The name of a variable for a setting cannot be made. -/
  | unnamed (key source : String)
  /-- The arguments are not a list, but of another shape. -/
  | notArguments (shape : String)
  /-- The arguments are wrong. -/
  | badArguments (text : String)
  /-- The names of options cannot begin like this. -/
  | badStart (text : String)
  deriving DecidableEq, Repr

def SourceProblem.message : SourceProblem → String
  | .unnamed key source =>
    "error getting value for field \"" ++ key ++ "\" from source \"" ++ source ++ "\""
  | .notArguments shape =>
    "cli_parse_args must be a list or tuple of strings, received <class '" ++ shape ++ "'>"
  | .badArguments text => "error parsing CLI: " ++ text
  | .badStart text => "CLI settings source prefix is invalid: " ++ text

/-- Why no pattern can be made of the characters that mark an option.  The first of them stands
behind a backslash, the last of them may be repeated. -/
inductive MarkProblem where
  /-- A letter has no meaning behind a backslash. -/
  | noEscape (letter : Char)
  /-- A letter behind a backslash needs digits. -/
  | incompleteEscape (letter : Char)
  /-- A letter behind a backslash needs the name of a character. -/
  | noCharacter
  /-- The digit one stands for the group that is being read. -/
  | openGroup
  /-- A digit stands for a group that there is not. -/
  | noGroup (digit : Char)
  | nothingToRepeat (position : Nat)
  | repeatedTwice (position : Nat)
  deriving DecidableEq, Repr

def MarkProblem.message : MarkProblem → String
  | .noEscape c => "bad escape \\" ++ String.ofList [c] ++ " at position 2"
  | .incompleteEscape c => "incomplete escape \\" ++ String.ofList [c] ++ " at position 2"
  | .noCharacter => "undefined character name '1,2' at position 2"
  | .openGroup => "cannot refer to an open group at position 2"
  | .noGroup c => "invalid group reference " ++ String.ofList [c] ++ " at position 3"
  | .nothingToRepeat position => "nothing to repeat at position " ++ Nat.repr position
  | .repeatedTwice position => "multiple repeat at position " ++ Nat.repr position

/-- Something that went wrong. -/
inductive Fault where
  /-- A text does not spell an atom. -/
  | notAnAtom (kind : AtomKind) (text : String)
  /-- A number to be read has this many digits. -/
  | tooManyDigits (digits : Nat)
  /-- A number to be written has too many digits. -/
  | tooLargeToWrite
  /-- A text does not spell a whole number. -/
  | notAnInteger (text : String)
  /-- Not-a-number has no whole part. -/
  | notANumber
  /-- Infinity has no whole part. -/
  | infinite
  /-- A value of this shape is not written as a whole number. -/
  | notWhole (shape : String)
  /-- A value, shown quoted, is none of the members of the enumeration `noun`. -/
  | notAMember (shown noun : String)
  /-- A table lacks a field. -/
  | missingField (name : String)
  /-- A value has a shape that does not allow what is done with it. -/
  | wrongShape
  /-- A value other than a table has no fields to ask for. -/
  | noFields
  /-- An index lies outside a list. -/
  | indexOutOfRange
  /-- A text has no such character. -/
  | characterOutOfRange
  /-- A block's index differs from its position. -/
  | misplacedBlock (index : Int) (position : Nat)
  /-- The terminator at a location is not a call. -/
  | notACall (location : String)
  /-- A document is nested too deeply. -/
  | nestedTooDeeply
  /-- The solver needs more rounds than it is allowed. -/
  | roundLimit (bound : Int)
  /-- Bytes are not UTF-8. -/
  | undecodable (error : Utf8.Error)
  /-- A settings file is not well formed. -/
  | notToml
  /-- The operating system refuses. -/
  | refused (error : FileError)
  /-- A path holds a null character. -/
  | nullInPath
  /-- A path has no last component. -/
  | unnamedPath (path : String)
  /-- A path begins in a home directory that is not known. -/
  | unknownHome
  /-- Bytes do not follow the encoding that they are said to have. -/
  | misread (problem : Encoding.Problem)
  /-- There is no encoding of this name. -/
  | unknownEncoding (name : String)
  /-- The encoding of this name is not one of text. -/
  | notTextEncoding (name : String)
  /-- The name of an encoding holds a null character. -/
  | nullInName
  /-- There are this many values and not two. -/
  | notAPair (count : Nat)
  /-- A source of settings cannot be read. -/
  | source (problem : SourceProblem)
  /-- No pattern can be made of the characters that mark an option. -/
  | badMark (problem : MarkProblem)
  /-- An option has names that other options have. -/
  | conflict (option : String) (names : List String)
  /-- The name of an option does not begin with one of the characters that mark options. -/
  | badOption (name marks : String)
  /-- Nothing is left of the name of an option without the characters that mark options. -/
  | unnamedOption (name : String)
  /-- The run ends here. -/
  | stopped (exit : Nat)
  /-- A renderer failed in a way it does not explain. -/
  | rendererFailed (text : String)
  deriving DecidableEq, Repr

namespace Fault

/-- How many characters of a quoted text that does not spell a whole number are shown. -/
def shownLimit : Nat := 200

/-- The beginning of a quoted text. -/
def quotedStart (text : String) : String :=
  String.ofList ((Text.quote text).toList.take shownLimit)

/-- The wording of a fault, if it has one of its own. -/
def wording? : Fault → Option String
  | .notAnAtom kind text => some ("not a " ++ kind.noun ++ ": " ++ Text.quote text)
  | .tooManyDigits n => some ("Exceeds the limit (" ++ Nat.repr Decimal.digitLimit
      ++ " digits) for integer string conversion: value has " ++ Nat.repr n
      ++ " digits; use sys.set_int_max_str_digits() to increase the limit")
  | .tooLargeToWrite => some ("Exceeds the limit (" ++ Nat.repr Decimal.digitLimit
      ++ " digits) for integer string conversion; "
      ++ "use sys.set_int_max_str_digits() to increase the limit")
  | .notAnInteger text => some ("invalid literal for int() with base 10: " ++ quotedStart text)
  | .notANumber => some "cannot convert float NaN to integer"
  | .notWhole shape => some ("Unknown format code 'd' for object of type '" ++ shape ++ "'")
  | .notAMember shown noun => some (shown ++ " is not a valid " ++ noun)
  | .missingField name => some (Text.quote name)
  | .indexOutOfRange => some "list index out of range"
  | .characterOutOfRange => some "string index out of range"
  | .misplacedBlock index position =>
    some ("basic block bb" ++ Decimal.text index ++ " declared at position " ++ Nat.repr position)
  | .notACall location => some ("expected a call terminator at " ++ location)
  | .roundLimit bound =>
    some ("solver did not converge within " ++ Decimal.text bound ++ " rounds")
  | .undecodable e => some e.message
  | .notToml => some "<toml>"
  | .refused e => some e.message
  | .nullInPath => some "embedded null byte"
  | .unnamedPath path => some ("PosixPath(" ++ Text.quote path ++ ") has an empty name")
  | .unknownHome => some "Could not determine home directory."
  | .misread p => some p.message
  | .unknownEncoding name => some ("unknown encoding: " ++ name)
  | .notTextEncoding name => some ("'" ++ name
      ++ "' is not a text encoding; use codecs.open() to handle arbitrary codecs")
  | .nullInName => some "embedded null character"
  | .notAPair n =>
    some (if n < 2 then "not enough values to unpack (expected 2, got " ++ Nat.repr n ++ ")"
      else "too many values to unpack (expected 2)")
  | .source p => some p.message
  | .badMark p => some p.message
  | .conflict option names =>
    some ("argument " ++ option ++ ": conflicting option string" ++
      (if names.length = 1 then "" else "s")
      ++ ": " ++ ", ".intercalate names)
  | .badOption name marks => some ("invalid option string " ++ Text.quote name
      ++ ": must start with a character " ++ Text.quote marks)
  | .unnamedOption name => some ("dest= is required for options like " ++ Text.quote name)
  | .stopped exit => some (Nat.repr exit)
  | .rendererFailed text => some text
  | .infinite | .wrongShape | .noFields | .nestedTooDeeply => none

/-- The name under which a fault without wording is logged. -/
def label : Fault → String
  | .infinite => "<OverflowError>"
  | .wrongShape => "<TypeError>"
  | .noFields => "<AttributeError>"
  | .nestedTooDeeply => "<RecursionError>"
  | _ => ""

/-- The text by which a fault is logged. -/
def text (f : Fault) : String :=
  f.wording?.getD f.label

/-- The fault of a text that does not spell a number. -/
def ofDecimal (source : List Char) : Decimal.Problem → Fault
  | .tooLong n => .tooManyDigits n
  | .malformed => .notAnInteger (String.ofList source)

end Fault
end BorrowGraph
