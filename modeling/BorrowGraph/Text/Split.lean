/-
Cutting text at separators and putting it together again.

All functions work on the characters of a text, so that what they do can be followed one
character at a time.
-/

namespace BorrowGraph.Text

/-- Put a character in front of the first piece. -/
def consFirst (c : Char) : List (List Char) → List (List Char)
  | [] => [[c]]
  | piece :: pieces => (c :: piece) :: pieces

/-- Cut at every occurrence of a character; there is always at least one piece. -/
def splitAtChar (sep : Char) : List Char → List (List Char)
  | [] => [[]]
  | c :: cs => if c = sep then [] :: splitAtChar sep cs else consFirst c (splitAtChar sep cs)

/-- Cut at every occurrence of `sep` found from left to right, after skipping `skip` characters
that belong to an occurrence already found. -/
def splitAfter (sep : List Char) : Nat → List Char → List (List Char)
  | _, [] => [[]]
  | skip + 1, _ :: cs => splitAfter sep skip cs
  | 0, c :: cs =>
    if sep.isPrefixOf (c :: cs) then [] :: splitAfter sep (sep.length - 1) cs
    else consFirst c (splitAfter sep 0 cs)

/-- Cut at every occurrence of the non-empty text `sep` found from left to right. -/
def splitAtText (sep : List Char) (cs : List Char) : List (List Char) :=
  splitAfter sep 0 cs

/-- Join pieces with a separator. -/
def join (sep : List Char) : List (List Char) → List Char
  | [] => []
  | [piece] => piece
  | piece :: pieces => piece ++ sep ++ join sep pieces

/-- `some rest` when `cs` is `start` followed by `rest`. -/
def stripStart? : List Char → List Char → Option (List Char)
  | [], cs => some cs
  | _ :: _, [] => none
  | s :: start, c :: cs => if s = c then stripStart? start cs else none

/-- Replace each character by the text that `f` gives for it. -/
def escapeWith (f : Char → List Char) (cs : List Char) : List Char :=
  cs.flatMap f

end BorrowGraph.Text
