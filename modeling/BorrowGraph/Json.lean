/-
Reading JSON documents, with an exact account of what is wrong and where.

Positions count characters from zero.  Besides the standard notation the reader accepts `NaN`,
`Infinity` and `-Infinity`.  The last of several fields with one name wins.  Whole numbers and
nesting are limited, as `Json.Limits` says.  Texts are made of Unicode scalar values: an escape
for half of a surrogate pair without the other half, which names no such value, is read as
U+FFFD.
-/
import BorrowGraph.Assoc
import BorrowGraph.Value

namespace BorrowGraph.Json

/-- Bounds on what is read: the digits of a whole number, if they are bounded, and the nesting of
lists and tables. -/
structure Limits where
  digits : Option Nat
  depth : Nat

/-- The limits for bundle files. -/
def Limits.standard : Limits := ⟨some Decimal.digitLimit, 985⟩

/-- What a document lacks at some position. -/
inductive Problem where
  | expectedValue
  | expectedName
  | expectedColon
  | expectedComma
  | extraData
  | unterminatedString
  | controlCharacter
  | badEscape
  | badCodeEscape
  | byteOrderMark
  deriving DecidableEq, Repr

/-- The wording of a problem. -/
def Problem.text : Problem → String
  | .expectedValue => "Expecting value"
  | .expectedName => "Expecting property name enclosed in double quotes"
  | .expectedColon => "Expecting ':' delimiter"
  | .expectedComma => "Expecting ',' delimiter"
  | .extraData => "Extra data"
  | .unterminatedString => "Unterminated string starting at"
  | .controlCharacter => "Invalid control character at"
  | .badEscape => "Invalid \\escape"
  | .badCodeEscape => "Invalid \\uXXXX escape"
  | .byteOrderMark => "Unexpected UTF-8 BOM (decode using utf-8-sig)"

/-- Why a document is not read. -/
inductive Error where
  | malformed (problem : Problem) (position : Nat)
  /-- A whole number has this many digits, more than the limit. -/
  | tooLong (digits : Nat)
  /-- Lists and tables are nested deeper than the limit. -/
  | tooDeep
  deriving DecidableEq, Repr

/-- The line of a position, counted from one. -/
def lineOf (source : List Char) (position : Nat) : Nat :=
  (source.take position).count '\n' + 1

/-- The column of a position in its line, counted from one. -/
def columnOf (source : List Char) (position : Nat) : Nat :=
  ((source.take position).reverse.takeWhile (· != '\n')).length + 1

/-- The message of a problem at a position of a document. -/
def problemMessage (source : List Char) (problem : Problem) (position : Nat) : String :=
  problem.text ++ ": line " ++ Nat.repr (lineOf source position) ++ " column "
    ++ Nat.repr (columnOf source position) ++ " (char " ++ Nat.repr position ++ ")"

/-- A position and the characters behind it. -/
abbrev Rest := Nat × List Char

/-- A blank of the notation. -/
def isSpace (c : Char) : Bool :=
  c == ' ' || c == '\t' || c == '\n' || c == '\r'

/-- Skip the blanks at a position. -/
def skipSpace (pos : Nat) : List Char → Nat × List Char
  | [] => (pos, [])
  | c :: cs => if isSpace c then skipSpace (pos + 1) cs else (pos, c :: cs)

/-! ### Strings -/

/-- The value of a hexadecimal digit. -/
def hexValue? (c : Char) : Option Nat :=
  if '0' ≤ c && c ≤ '9' then some (c.toNat - '0'.toNat)
  else if 'a' ≤ c && c ≤ 'f' then some (c.toNat - 'a'.toNat + 10)
  else if 'A' ≤ c && c ≤ 'F' then some (c.toNat - 'A'.toNat + 10)
  else none

/-- The value of hexadecimal digits. -/
def hexNumber? (cs : List Char) : Option Nat :=
  cs.foldl (fun n c => do return 16 * (← n) + (← hexValue? c)) (some 0)

/-- The character that a one-letter escape stands for. -/
def escape? : Char → Option Char
  | '"' => some '"'
  | '\\' => some '\\'
  | '/' => some '/'
  | 'b' => some (Char.ofNat 8)
  | 'f' => some (Char.ofNat 12)
  | 'n' => some '\n'
  | 'r' => some '\r'
  | 't' => some '\t'
  | _ => none

/-- The character with a code; half of a surrogate pair becomes the replacement character. -/
def charOfCode (n : Nat) : Char :=
  if 0xd800 ≤ n && n < 0xe000 then Char.ofNat 0xfffd else Char.ofNat n

def isHighSurrogate (n : Nat) : Bool := 0xd800 ≤ n && n < 0xdc00

def isLowSurrogate (n : Nat) : Bool := 0xdc00 ≤ n && n < 0xe000

/-- Put a character in front of the string read behind it. -/
def consChar (c : Char) (tail : Except Error (List Char × Rest)) :
    Except Error (List Char × Rest) := do
  let (s, next) ← tail
  return (c :: s, next)

/-- Read a string up to its closing quote; `start` is the position of its opening quote. -/
def stringBody (start pos : Nat) : List Char → Except Error (List Char × Rest)
  | [] => .error (.malformed .unterminatedString start)
  | '"' :: cs => .ok ([], pos + 1, cs)
  | '\\' :: [] => .error (.malformed .unterminatedString start)
  | '\\' :: 'u' :: a :: b :: c :: d :: cs =>
    if cs.isEmpty then .error (.malformed .badCodeEscape (pos + 1))
    else
      match hexNumber? [a, b, c, d] with
      | none => .error (.malformed .badCodeEscape (pos + 1))
      | some n =>
        match cs with
        | '\\' :: 'u' :: a' :: b' :: c' :: d' :: cs' =>
          if isHighSurrogate n && !cs'.isEmpty then
            match hexNumber? [a', b', c', d'] with
            | none => .error (.malformed .badCodeEscape (pos + 7))
            | some m =>
              if isLowSurrogate m then
                consChar (Char.ofNat (0x10000 + (n - 0xd800) * 0x400 + (m - 0xdc00)))
                  (stringBody start (pos + 12) cs')
              else
                consChar (charOfCode n)
                  (stringBody start (pos + 6) ('\\' :: 'u' :: a' :: b' :: c' :: d' :: cs'))
          else
            consChar (charOfCode n)
              (stringBody start (pos + 6) ('\\' :: 'u' :: a' :: b' :: c' :: d' :: cs'))
        | cs => consChar (charOfCode n) (stringBody start (pos + 6) cs)
  | '\\' :: 'u' :: _ => .error (.malformed .badCodeEscape (pos + 1))
  | '\\' :: e :: cs =>
    match escape? e with
    | none => .error (.malformed .badEscape pos)
    | some c => consChar c (stringBody start (pos + 2) cs)
  | c :: cs =>
    if c.toNat < 0x20 then .error (.malformed .controlCharacter pos)
    else consChar c (stringBody start (pos + 1) cs)
termination_by cs => cs.length

/-! ### Numbers -/

/-- An ASCII digit. -/
def isDigit (c : Char) : Bool := '0' ≤ c && c ≤ '9'

/-- A number as it is spelled: its sign, its whole part, and its fraction and exponent if it has
any. -/
structure NumberText where
  negative : Bool
  whole : List Char
  fraction : Option (List Char)
  exponent : Option (Bool × List Char)

/-- The count of characters of a spelled number, the exponent apart. -/
def NumberText.baseLength (t : NumberText) : Nat :=
  (if t.negative then 1 else 0) + t.whole.length
    + (match t.fraction with | none => 0 | some f => f.length + 1)

/-- The fraction at a position: a point with at least one digit. -/
def scanFraction : List Char → Option (List Char) × List Char
  | '.' :: c :: cs =>
    if isDigit c then (some ((c :: cs).takeWhile isDigit), (c :: cs).dropWhile isDigit)
    else (none, '.' :: c :: cs)
  | cs => (none, cs)

/-- The exponent at a position: a mark, a sign if any, and at least one digit, together with its
count of characters. -/
def scanExponent (cs : List Char) : Option (Bool × List Char) × Nat × List Char :=
  match cs with
  | e :: tail =>
    if e == 'e' || e == 'E' then
      let (negative, signs, digits) := match tail with
        | '+' :: ds => (false, 1, ds)
        | '-' :: ds => (true, 1, ds)
        | ds => (false, 0, ds)
      match digits.takeWhile isDigit with
      | [] => (none, 0, cs)
      | ds => (some (negative, ds), 1 + signs + ds.length, digits.dropWhile isDigit)
    else (none, 0, cs)
  | [] => (none, 0, [])

/-- The whole part at a position: a lone zero, or digits that do not start with one. -/
def scanWhole : List Char → Option (List Char × List Char)
  | '0' :: cs => some (['0'], cs)
  | c :: cs =>
    if isDigit c then some ((c :: cs).takeWhile isDigit, (c :: cs).dropWhile isDigit) else none
  | [] => none

/-- The number that a spelled number stands for. -/
def NumberText.value (limits : Limits) (t : NumberText) : Except Error Value :=
  match t.fraction, t.exponent with
  | none, none =>
    if limits.digits.any (· < t.whole.length) then .error (.tooLong t.whole.length)
    else
      let n : Int := Text.digitsValue t.whole
      .ok (.int (if t.negative then -n else n))
  | fraction, exponent =>
    let f := fraction.getD []
    let e : Int := match exponent with
      | none => 0
      | some (negative, ds) =>
        let n : Int := Text.digitsValue ds
        if negative then -n else n
    .ok (.float (Binary64.ofDecimal t.negative (Text.digitsValue (t.whole ++ f)) (e - f.length)))

/-- Read a number. -/
def number (limits : Limits) (pos : Nat) (cs : List Char) : Except Error (Value × Rest) :=
  let (negative, digits) := match cs with
    | '-' :: ds => (true, ds)
    | ds => (false, ds)
  match scanWhole digits with
  | none => .error (.malformed .expectedValue pos)
  | some (whole, rest) => do
    let (fraction, rest) := scanFraction rest
    let (exponent, width, rest) := scanExponent rest
    let t : NumberText := ⟨negative, whole, fraction, exponent⟩
    return (← t.value limits, pos + t.baseLength + width, rest)

/-! ### Values -/

/-- The words that stand for a value. -/
def words : List (List Char × Value) := [
  ("null".toList, .null),
  ("true".toList, .bool true),
  ("false".toList, .bool false),
  ("NaN".toList, .float .nan),
  ("Infinity".toList, .float (.infinite false)),
  ("-Infinity".toList, .float (.infinite true))]

mutual

/-- Read a value.  `depth` is the nesting still allowed; `fuel` bounds the steps. -/
def value (limits : Limits) : Nat → Nat → Nat → List Char → Except Error (Value × Rest)
  | 0, _, pos, _ => .error (.malformed .expectedValue pos)
  | fuel + 1, depth, pos, cs =>
    match cs with
    | '"' :: rest => do
      let (s, next) ← stringBody pos (pos + 1) rest
      return (.text (String.ofList s), next)
    | '[' :: rest =>
      if depth = 0 then .error .tooDeep
      else
        let (p, rest) := skipSpace (pos + 1) rest
        match rest with
        | ']' :: rest => .ok (.list [], p + 1, rest)
        | rest => do
          let (items, next) ← items limits fuel (depth - 1) p rest
          return (.list items, next)
    | '\x7b' :: rest =>
      if depth = 0 then .error .tooDeep
      else
        let (p, rest) := skipSpace (pos + 1) rest
        match rest with
        | '\x7d' :: rest => .ok (.table [], p + 1, rest)
        | rest => do
          let (fields, next) ← fields limits fuel (depth - 1) p rest
          return (.table (Assoc.ofPairs fields), next)
    | cs =>
      match words.find? fun (w, _) => w.isPrefixOf cs with
      | some (w, v) => .ok (v, pos + w.length, cs.drop w.length)
      | none => number limits pos cs

/-- Read the items of a list up to its closing bracket. -/
def items (limits : Limits) : Nat → Nat → Nat → List Char → Except Error (List Value × Rest)
  | 0, _, pos, _ => .error (.malformed .expectedValue pos)
  | fuel + 1, depth, pos, cs => do
    let (v, p, rest) ← value limits fuel depth pos cs
    let (p, rest) := skipSpace p rest
    match rest with
    | ']' :: rest => .ok ([v], p + 1, rest)
    | ',' :: rest =>
      let (p, rest) := skipSpace (p + 1) rest
      let (vs, next) ← items limits fuel depth p rest
      return (v :: vs, next)
    | _ => .error (.malformed .expectedComma p)

/-- Read the fields of a table up to its closing brace. -/
def fields (limits : Limits) :
    Nat → Nat → Nat → List Char → Except Error (List (String × Value) × Rest)
  | 0, _, pos, _ => .error (.malformed .expectedName pos)
  | fuel + 1, depth, pos, cs =>
    match cs with
    | '"' :: rest => do
      let (name, p, rest) ← stringBody pos (pos + 1) rest
      let (p, rest) := skipSpace p rest
      match rest with
      | ':' :: rest =>
        let (p, rest) := skipSpace (p + 1) rest
        let (v, p, rest) ← value limits fuel depth p rest
        let (p, rest) := skipSpace p rest
        match rest with
        | '\x7d' :: rest => .ok ([(String.ofList name, v)], p + 1, rest)
        | ',' :: rest =>
          let (p, rest) := skipSpace (p + 1) rest
          let (fs, next) ← fields limits fuel depth p rest
          return ((String.ofList name, v) :: fs, next)
        | _ => .error (.malformed .expectedComma p)
      | _ => .error (.malformed .expectedColon p)
    | _ => .error (.malformed .expectedName pos)

end

/-- Read a document. -/
def read (limits : Limits) (source : List Char) : Except Error Value := do
  if source.head? = some (Char.ofNat 0xfeff) then
    throw (.malformed .byteOrderMark 0)
  let (p, rest) := skipSpace 0 source
  let (v, p, rest) ← value limits (2 * source.length + 2) limits.depth p rest
  let (p, rest) := skipSpace p rest
  if rest.isEmpty then return v else throw (.malformed .extraData p)

end BorrowGraph.Json
