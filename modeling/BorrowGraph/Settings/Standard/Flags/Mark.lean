/-
The mark of an option as a pattern.

An argument looks like an option if it begins with the mark, the last character of which may
stand there twice, and goes on with a name.  The first character of the mark is read as behind
a backslash: a letter may then stand for a class of characters.
-/
import BorrowGraph.Fault
import BorrowGraph.Text.Blank
import BorrowGraph.Text.Word

namespace BorrowGraph.Settings.Standard.Flags

/-- The characters that a place in a pattern stands for. -/
inductive CharClass where
  | only (c : Char)
  | digit (isIn : Bool)
  | blank (isIn : Bool)
  | word (isIn : Bool)
  /-- All but the end of a line. -/
  | any
  deriving DecidableEq, Repr

def CharClass.has (c : Char) : CharClass → Bool
  | .only d => c = d
  | .digit isIn => Text.isDigit c = isIn
  | .blank isIn => Text.isBlank c = isIn
  | .word isIn => Text.isWord c = isIn
  | .any => c ≠ '\n'

/-- The class of a character behind a backslash; nothing for one that stands for a place between
characters. -/
def escapedClass (c : Char) : Except MarkProblem (Option CharClass) :=
  if !c.isAlphanum then .ok (some (.only c))
  else
    match c with
    | '0' => .ok (some (.only (Char.ofNat 0)))
    | '1' => .error .openGroup
    | 'd' => .ok (some (.digit true))
    | 'D' => .ok (some (.digit false))
    | 's' => .ok (some (.blank true))
    | 'S' => .ok (some (.blank false))
    | 'w' => .ok (some (.word true))
    | 'W' => .ok (some (.word false))
    | 'a' => .ok (some (.only (Char.ofNat 0x07)))
    | 'f' => .ok (some (.only (Char.ofNat 0x0c)))
    | 'n' => .ok (some (.only '\n'))
    | 'r' => .ok (some (.only '\r'))
    | 't' => .ok (some (.only '\t'))
    | 'v' => .ok (some (.only (Char.ofNat 0x0b)))
    | 'A' | 'b' | 'B' | 'Z' => .ok none
    | 'u' | 'U' | 'x' => .error (.incompleteEscape c)
    | 'N' => .error .noCharacter
    | c => .error (if c.isDigit then .noGroup c else .noEscape c)

/-- The class of the last character of a mark that has others before it. -/
def lastClass (position : Nat) (c : Char) : Except MarkProblem CharClass :=
  if c ∈ ['*', '+', '?'] then .error (.repeatedTwice position)
  else if c ∈ ['^', '$', '(', '|'] then .error (.nothingToRepeat position)
  else .ok (if c = '.' then .any else .only c)

/-- A pattern: the characters before the last one, and the last one, which may stand there twice. -/
structure Pattern where
  before : List CharClass
  last : CharClass
  deriving DecidableEq, Repr

/-- The position behind a mark in the text of its pattern. -/
def positionBehind (mark : List Char) : Nat :=
  mark.length + 3

/-- The pattern of a mark. -/
def Pattern.ofMark (mark : List Char) : Except MarkProblem Pattern := do
  match mark with
  | [] => return ⟨[], .any⟩
  | [c] =>
    match ← escapedClass c with
    | some last => return ⟨[], last⟩
    | none => throw (.nothingToRepeat (positionBehind mark))
  | c :: rest =>
    let first ← escapedClass c
    let last ← lastClass (positionBehind mark) (rest.getLast?.getD c)
    return ⟨first.toList ++ rest.dropLast.map .only, last⟩

/-- The rest of a text behind characters of some classes. -/
def behindClasses? : List CharClass → List Char → Option (List Char)
  | [], cs => some cs
  | k :: ks, c :: cs => if k.has c then behindClasses? ks cs else none
  | _ :: _, [] => none

/-- Whether a character can stand in a name. -/
def isNameChar (c : Char) : Bool :=
  !Text.isBlank c && c ≠ '='

/-- How many characters of a text are a mark and a name. -/
def Pattern.flagLength? (p : Pattern) (cs : List Char) : Option Nat :=
  let lengthWith (marks : List CharClass) : Option Nat := do
    let rest ← behindClasses? marks cs
    let name := rest.takeWhile isNameChar
    if name.isEmpty then none else some (marks.length + name.length)
  (lengthWith (p.before ++ [p.last, p.last])).or (lengthWith (p.before ++ [p.last]))

end BorrowGraph.Settings.Standard.Flags
