/-
Encodings of text, as far as they decide which bytes are text.

`Encoding.fault?` finds the first place where bytes do not follow an encoding.  Of encodings
with one byte for a character only the bytes that stand for nothing matter.  All other files
are UTF-8; files in these encodings are only read by the standard settings library, where a
reserved key names them.
-/
import BorrowGraph.Encoding.Backslash
import BorrowGraph.Encoding.Designated
import BorrowGraph.Encoding.Label
import BorrowGraph.Encoding.MultiByte
import BorrowGraph.Encoding.Punycode
import BorrowGraph.Encoding.Utf7

namespace BorrowGraph

/-- Which byte of a unit comes first. -/
inductive ByteOrder where
  | little
  | big
  deriving DecidableEq, Repr

namespace ByteOrder

def text : ByteOrder → String
  | .little => "le"
  | .big => "be"

/-- The number that the bytes of a unit stand for. -/
def number (order : ByteOrder) (unit : List UInt8) : Nat :=
  let bytes := match order with
    | .little => unit.reverse
    | .big => unit
  bytes.foldl (fun n b => 256 * n + b.toNat) 0

end ByteOrder

/-- An encoding. -/
inductive Encoding where
  | ascii
  | utf8
  /-- UTF-8 that may begin with a mark. -/
  | markedUtf8
  /-- Units of two bytes; without an order, a mark at the beginning tells it. -/
  | utf16 (order : Option ByteOrder)
  /-- Units of four bytes; without an order, a mark at the beginning tells it. -/
  | utf32 (order : Option ByteOrder)
  /-- One byte for a character, except for bytes that stand for nothing. -/
  | single (gaps : List Nat)
  /-- One byte or several for a character. -/
  | multiByte (encoding : Encoding.MultiByte)
  /-- Sets of characters that escape sequences name. -/
  | designated (encoding : Encoding.Designated)
  /-- Chinese characters between braces behind tildes. -/
  | tilde
  | utf7
  | backslash (spelling : Encoding.Backslash.Notation)
  | punycode
  /-- Labels between points, some of them in punycode. -/
  | labels
  /-- An encoding that no bytes follow. -/
  | never
  deriving DecidableEq, Repr

namespace Encoding

/-- Why bytes are not text. -/
inductive Problem where
  | notUtf8 (error : Utf8.Error)
  | misread (error : Misread)
  | notPunycode (problem : Punycode.Problem)
  | badLabel (problem : Label.Problem)
  /-- The mark that tells the order of the bytes is missing. -/
  | unmarked (noun : String)
  | never
  /-- The encoding has no rule for what the bytes say. -/
  | stuck
  deriving DecidableEq, Repr

def Problem.message : Problem → String
  | .notUtf8 e => e.message
  | .misread e => e.message
  | .notPunycode p => p.message
  | .badLabel p => p.message
  | .unmarked noun => noun ++ " stream does not start with BOM"
  | .never => "undefined encoding"
  | .stuck => "internal codec error"

/-- The problem with bytes whose reading ends. -/
def Problem.ofUnread : Unread → Problem
  | .misread e => .misread e
  | .stuck => .stuck

/-- The first fault in units of two bytes.  Two units in a row may stand for one character. -/
def fault16? (order : ByteOrder) (pos : Nat) : List UInt8 → Option Misread
  | [] => none
  | [a] => some ⟨"utf-16-" ++ order.text, a, pos, 1, "truncated data"⟩
  | a :: b :: rest =>
    let refused (width : Nat) (reason : String) : Option Misread :=
      some ⟨"utf-16-" ++ order.text, a, pos, width, reason⟩
    let unit := order.number [a, b]
    if unit < 0xd800 ∨ 0xe000 ≤ unit then fault16? order (pos + 2) rest
    else if 0xdc00 ≤ unit then refused 2 "illegal encoding"
    else
      match rest with
      | c :: d :: rest =>
        let next := order.number [c, d]
        if 0xdc00 ≤ next ∧ next < 0xe000 then fault16? order (pos + 4) rest
        else refused 2 "illegal UTF-16 surrogate"
      | few => refused (2 + few.length) "unexpected end of data"

/-- The first fault in units of four bytes. -/
def fault32? (order : ByteOrder) (pos : Nat) : List UInt8 → Option Misread
  | [] => none
  | a :: b :: c :: d :: rest =>
    let refused (reason : String) : Option Misread :=
      some ⟨"utf-32-" ++ order.text, a, pos, 4, reason⟩
    let unit := order.number [a, b, c, d]
    if 0x110000 ≤ unit then refused "code point not in range(0x110000)"
    else if 0xd800 ≤ unit ∧ unit < 0xe000 then
      refused "code point in surrogate code point range(0xd800, 0xe000)"
    else fault32? order (pos + 4) rest
  | a :: few => some ⟨"utf-32-" ++ order.text, a, pos, 1 + few.length, "truncated data"⟩

/-- The order that a mark of some width at the beginning tells. -/
def markedOrder? (width : Nat) (bytes : List UInt8) : Option ByteOrder :=
  let mark := bytes.take width
  if mark.length < width then none
  else if ByteOrder.little.number mark = 0xfeff then some .little
  else if ByteOrder.big.number mark = 0xfeff then some .big
  else none

/-- The fault of bytes whose order a mark tells: without a mark they are read in the little
order, and refused afterwards unless there are none. -/
def markedFault? (noun : String) (width : Nat) (bytes : List UInt8)
    (fault? : ByteOrder → List UInt8 → Option Misread) : Option Problem :=
  match markedOrder? width bytes with
  | some order => (fault? order bytes).map .misread
  | none =>
    match fault? .little bytes with
    | some e => some (.misread e)
    | none => if bytes.isEmpty then none else some (.unmarked noun)

/-- The mark at the beginning of UTF-8. -/
def utf8Mark : List UInt8 := [0xef, 0xbb, 0xbf]

/-- The fault of bytes that are not UTF-8. -/
def utf8Fault? (bytes : List UInt8) : Option Problem :=
  match Utf8.decode bytes with
  | .ok _ => none
  | .error e => some (.notUtf8 e)

/-- What is wrong with bytes that are not punycode. -/
def punycodeFault? (bytes : List UInt8) : Option Problem :=
  (Punycode.problem? bytes).map fun
    | .notAscii e => .misread e
    | p => .notPunycode p

/-- The first place where bytes do not follow an encoding. -/
def fault? (bytes : List UInt8) : Encoding → Option Problem
  | .ascii => (notAscii? bytes).map .misread
  | .utf8 => utf8Fault? bytes
  | .markedUtf8 =>
    if bytes.isPrefixOf utf8Mark then none
    else if utf8Mark.isPrefixOf bytes then utf8Fault? (bytes.drop utf8Mark.length)
    else utf8Fault? bytes
  | .utf16 (some order) => (fault16? order 0 bytes).map .misread
  | .utf16 none => markedFault? "UTF-16" 2 bytes fun order => fault16? order 0
  | .utf32 (some order) => (fault32? order 0 bytes).map .misread
  | .utf32 none => markedFault? "UTF-32" 4 bytes fun order => fault32? order 0
  | .single gaps =>
    (firstGap? "charmap" "character maps to <undefined>" (·.toNat ∈ gaps) 0 bytes).map .misread
  | .multiByte m => (m.fault? bytes).map .ofUnread
  | .designated d => (d.fault? bytes).map .ofUnread
  | .tilde => (Tilde.fault? bytes).map .ofUnread
  | .utf7 => (Utf7.fault? bytes).map .misread
  | .backslash spelling => (Backslash.fault? spelling bytes).map .ofUnread
  | .punycode => punycodeFault? bytes
  | .labels => ((notAscii? bytes).map Problem.misread).or ((Label.problem? bytes).map .badLabel)
  | .never => some .never

end Encoding
end BorrowGraph
