/-
Text in which a backslash begins the number or the name of a character.

Every byte stands for the character of its number, except behind a backslash.  The full
notation knows numbers of two, four and eight digits and names; the plain one knows only
numbers of four and eight digits.
-/
import BorrowGraph.Encoding.Scan
import BorrowGraph.Text.CharacterNames

namespace BorrowGraph.Encoding.Backslash

/-- Which notation is used. -/
inductive Notation where
  | full
  | plain
  deriving DecidableEq, Repr

def Notation.codec : Notation → String
  | .full => "unicodeescape"
  | .plain => "rawunicodeescape"

/-- Why a number is refused that is greater than all code points. -/
def Notation.beyond : Notation → String
  | .full => "illegal Unicode character"
  | .plain => "\\Uxxxxxxxx out of range"

/-- The value of a hexadecimal digit. -/
def digit? (b : UInt8) : Option Nat :=
  let n := b.toNat
  if 0x30 ≤ n ∧ n ≤ 0x39 then some (n - 0x30)
  else if 0x41 ≤ n ∧ n ≤ 0x46 then some (n - 0x41 + 10)
  else if 0x61 ≤ n ∧ n ≤ 0x66 then some (n - 0x61 + 10)
  else none

/-- A number of `count` digits behind a backslash and a letter. -/
def numberStep (n : Notation) (count : Nat) (letters : String) (rest : List UInt8) : Step Unit :=
  let digits := (rest.take count).takeWhile fun b => (digit? b).isSome
  if digits.length < count then
    .refused (2 + digits.length) ("truncated \\" ++ letters ++ " escape")
  else
    let value := digits.foldl (fun n b => 16 * n + (digit? b).getD 0) 0
    if 0x10ffff < value then .refused (2 + count) n.beyond else .taken (2 + count) ()

/-- Why the notation of a name is refused. -/
def malformedName : String := "malformed \\N character escape"

/-- A name in braces behind a backslash and a letter. -/
def nameStep (rest : List UInt8) : Step Unit :=
  match rest with
  | [] => .refused 2 malformedName
  | b :: rest =>
    if b.toNat ≠ 0x7b then .refused 2 malformedName
    else
      let name := rest.takeWhile fun b => b.toNat ≠ 0x7d
      if name.length = rest.length then .refused (3 + name.length) malformedName
      else if name.isEmpty then .refused 3 malformedName
      else if Text.isCharacterName (String.ofList (name.map fun b => Char.ofNat b.toNat)) then
        .taken (4 + name.length) ()
      else .refused (4 + name.length) "unknown Unicode character name"

/-- What the bytes at one position are. -/
def step (n : Notation) (b : UInt8) (rest : List UInt8) : Step Unit :=
  if b.toNat ≠ 0x5c then .taken 1 ()
  else
    match rest with
    | [] =>
      match n with
      | .full => .refused 1 "\\ at end of string"
      | .plain => .taken 1 ()
    | c :: rest =>
      let letter := Char.ofNat c.toNat
      if letter = 'u' then numberStep n 4 "uXXXX" rest
      else if letter = 'U' then numberStep n 8 "UXXXXXXXX" rest
      else if n = .full ∧ letter = 'x' then numberStep n 2 "xXX" rest
      else if n = .full ∧ letter = 'N' then nameStep rest
      else .taken 2 ()

/-- The first place where bytes do not follow a notation. -/
def fault? (n : Notation) (bytes : List UInt8) : Option Unread :=
  firstFault? n.codec (fun _ => step n) () 0 0 bytes

end BorrowGraph.Encoding.Backslash
