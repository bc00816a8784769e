/-
The shape of command-line arguments: the value behind an equals sign, numbers that look like
options, and the mark after which there are no options.
-/
import BorrowGraph.Text.Digit

namespace BorrowGraph.Text

/-- The mark that ends the options. -/
def endMark : String := "--"

/-- The text before the first `=` and the text after it. -/
def splitValue (cs : List Char) : String × Option String :=
  match cs.dropWhile (· ≠ '=') with
  | [] => (String.ofList cs, none)
  | _ :: value => (String.ofList (cs.takeWhile (· ≠ '=')), some (String.ofList value))

/-- Whether a text is a negative number. -/
def isNegativeNumber (cs : List Char) : Bool :=
  match cs with
  | '-' :: number =>
    let number := if number.getLast? = some '\n' then number.dropLast else number
    match number.dropWhile Text.isDigit with
    | [] => !number.isEmpty
    | '.' :: fraction => !fraction.isEmpty && fraction.all Text.isDigit
    | _ => false
  | _ => false

end BorrowGraph.Text
