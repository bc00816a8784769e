/-
Text broken into lines of a width.

A text is cut into pieces, which are blanks, words, and parts of words with a hyphen.  `wrap`
fills each line with as many pieces as fit.  A piece that fits in no line is broken at the end
of the line, after a hyphen if there is one.
-/
import BorrowGraph.Text.Blank
import BorrowGraph.Text.Digit
import BorrowGraph.Text.Word

namespace BorrowGraph.Text

/-- Characters of words other than digits. -/
def isLetter (c : Char) : Bool :=
  isWord c && !isDigit c

/-- Whether a text begins with two letters that at most one hyphen divides. -/
def startsWithLetters : List Char → Bool
  | a :: '-' :: b :: _ => isLetter a && isLetter b
  | a :: b :: _ => isLetter a && isLetter b
  | _ => false

/-- Whether a line may end after a hyphen.  `before` holds the characters in front of it, the
last one first. -/
def isBreak (before after : List Char) : Bool :=
  startsWithLetters before && startsWithLetters after

/-- The pieces of a text.  `before` holds the characters in front of it and `piece` those of
the piece that is not complete, the last one first. -/
def piecesFrom (before piece : List Char) : List Char → List (List Char)
  | [] => [piece.reverse]
  | c :: cs =>
    if isAsciiBlank c then
      if piece.all isAsciiBlank then piecesFrom (c :: before) (c :: piece) cs
      else piece.reverse :: piecesFrom (c :: before) [c] cs
    else if !piece.isEmpty && piece.all isAsciiBlank then
      piece.reverse :: piecesFrom (c :: before) [c] cs
    else if c = '-' && isBreak before cs then (c :: piece).reverse :: piecesFrom (c :: before) [] cs
    else piecesFrom (c :: before) (c :: piece) cs

/-- The pieces of a text: blanks, words, and parts of words that end in a hyphen. -/
def pieces (cs : List Char) : List (List Char) :=
  (piecesFrom [] [] cs).filter fun piece => !piece.isEmpty

/-- As many pieces as fit in a room, and the pieces that are left. -/
def takeFitting (room : Nat) : List (List Char) → List (List Char) × List (List Char)
  | [] => ([], [])
  | piece :: rest =>
    if piece.length ≤ room then
      let (line, left) := takeFitting (room - piece.length) rest
      (piece :: line, left)
    else ([], piece :: rest)

/-- The length of the part of a piece that ends with the last hyphen in some room, unless only
hyphens are in front of it. -/
def hyphenEnd? (room : Nat) (piece : List Char) : Option Nat :=
  let start := ((piece.take room).reverse.dropWhile (· ≠ '-')).reverse
  if start.dropLast.all (· = '-') then none else some start.length

/-- Fill a line with pieces; a piece that is longer than any line is broken.  The line comes
with the pieces that are left. -/
def fillLine (width : Nat) (ps : List (List Char)) : List (List Char) × List (List Char) :=
  let (line, left) := takeFitting width ps
  match left with
  | [] => (line, [])
  | piece :: rest =>
    if piece.length ≤ width then (line, piece :: rest)
    else
      let room := width - line.flatten.length
      let (start, tail) := piece.splitAt ((hyphenEnd? room piece).getD room)
      (line ++ [start], tail :: rest)

/-- A line without its last piece if that is blank. -/
def withoutBlankEnd (line : List (List Char)) : List (List Char) :=
  match line.getLast? with
  | some piece => if piece.all isAsciiBlank then line.dropLast else line
  | none => []

/-- The lines of some pieces.  No line but the first begins with a blank. -/
def wrapPieces (width : Nat) (isFirst : Bool) : Nat → List (List Char) → List (List Char)
  | 0, _ => []
  | fuel + 1, ps =>
    let ps := match ps with
      | piece :: rest => if !isFirst && piece.all isAsciiBlank then rest else ps
      | [] => []
    if ps.isEmpty then []
    else
      let (line, left) := fillLine width ps
      match withoutBlankEnd line with
      | [] => wrapPieces width isFirst fuel left
      | line => line.flatten :: wrapPieces width false fuel left

/-- Break a text into lines of at most `width` characters.  Each line takes at least one
character, so there are no more lines than characters. -/
def wrap (width : Nat) (text : String) : List String :=
  let cs := text.toList
  (wrapPieces width true (cs.length + 1) (pieces cs)).map String.ofList

end BorrowGraph.Text
