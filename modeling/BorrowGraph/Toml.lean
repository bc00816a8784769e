/-
Reading TOML documents.

A document is a sequence of statements: a header opens a table, or a new table in a list of
tables, and a pair gives a key of the open table a value.  No table is opened twice by a
header, and what a pair writes as one value is closed to all later statements.  Malformed
documents are not told apart; only whole numbers that are too long and values that are nested
too deeply are.
-/
import BorrowGraph.Assoc
import BorrowGraph.Json
import BorrowGraph.Text.Split

namespace BorrowGraph.Toml

/-- Why a document is not read. -/
inductive Error where
  | malformed
  /-- A whole number has this many digits, more than the limit. -/
  | tooLong (digits : Nat)
  /-- Values are nested too deeply. -/
  | tooDeep
  deriving DecidableEq, Repr

/-- The fields of a table, in the order in which they were first written. -/
abbrev Fields := List (String × Value)

/-- A path of keys. -/
abbrev Key := List String

/-- Refuse a document. -/
def malformed {α : Type} : Except Error α := .error .malformed

/-- A result that is there, or a malformed document. -/
def expect {α : Type} : Option α → Except Error α
  | some a => .ok a
  | none => malformed

/-! ### Characters -/

def isSpace (c : Char) : Bool := c = ' ' || c = '\t'

def isSpaceOrLine (c : Char) : Bool := isSpace c || c = '\n'

/-- A control character, which no text holds as such; tabs are allowed. -/
def isControl (c : Char) : Bool :=
  (c.toNat < 0x20 || c.toNat == 0x7f) && c != '\t'

/-- A control character that is not allowed in a text over several lines. -/
def isControlInLines (c : Char) : Bool :=
  isControl c && c != '\n'

def isDigit (c : Char) : Bool := '0' ≤ c && c ≤ '9'

/-- A character of a key that stands without quotes. -/
def isBare (c : Char) : Bool :=
  isDigit c || ('a' ≤ c && c ≤ 'z') || ('A' ≤ c && c ≤ 'Z') || c = '-' || c = '_'

def skipSpace (cs : List Char) : List Char :=
  cs.dropWhile isSpace

/-- Write `\r\n` as `\n`. -/
def joinLineEnds : List Char → List Char
  | [] => []
  | '\r' :: '\n' :: cs => '\n' :: joinLineEnds cs
  | c :: cs => c :: joinLineEnds cs

/-- Skip a comment up to the end of its line. -/
def skipComment (cs : List Char) : Except Error (List Char) :=
  match cs with
  | '#' :: rest =>
    if (rest.takeWhile (· != '\n')).any isControl then malformed
    else .ok (rest.dropWhile (· != '\n'))
  | _ => .ok cs

/-- Skip blanks, line ends and comments, in at most `fuel` comments. -/
def skipLines : Nat → List Char → Except Error (List Char)
  | 0, cs => .ok cs
  | fuel + 1, cs =>
    match cs.dropWhile isSpaceOrLine with
    | '#' :: rest => do skipLines fuel (← skipComment ('#' :: rest))
    | rest => .ok rest

/-! ### Texts -/

/-- What stands before a mark, which must be there, and what follows it. -/
def until? (mark : List Char) : List Char → Option (List Char × List Char)
  | [] => none
  | c :: cs =>
    if mark.isPrefixOf (c :: cs) then some ([], (c :: cs).drop mark.length)
    else (until? mark cs).map fun (before, after) => (c :: before, after)

/-- The number of a run of hexadecimal digits. -/
def hexNumber? (cs : List Char) : Option Nat :=
  cs.foldl (fun n c => do return (← n) * 16 + (← Json.hexValue? c)) (some 0)

/-- A character given by its number. -/
def numberedChar (width : Nat) (cs : List Char) : Except Error (Char × List Char) := do
  let digits := cs.take width
  if digits.length ≠ width then throw .malformed
  let n ← expect (hexNumber? digits)
  if n.isValidChar then return (Char.ofNat n, cs.drop width) else malformed

/-- The escapes of one letter. -/
def shortEscapes : List (Char × Char) :=
  [('b', '\x08'), ('t', '\t'), ('n', '\n'), ('f', '\x0c'), ('r', '\r'), ('"', '"'), ('\\', '\\')]

/-- The character of an escape, given what follows its backslash. -/
def escape : List Char → Except Error (Char × List Char)
  | 'u' :: rest => numberedChar 4 rest
  | 'U' :: rest => numberedChar 8 rest
  | c :: rest => do return (← expect (Assoc.get? c shortEscapes), rest)
  | [] => malformed

/-- A text on one line, given what follows its opening quote. -/
def basicText : Nat → List Char → Except Error (List Char × List Char)
  | 0, _ => malformed
  | _, [] => malformed
  | fuel + 1, c :: cs =>
    if c = '"' then .ok ([], cs)
    else if c = '\\' then do
      let (e, cs) ← escape cs
      let (s, rest) ← basicText fuel cs
      return (e :: s, rest)
    else if isControl c then malformed
    else do
      let (s, rest) ← basicText fuel cs
      return (c :: s, rest)

/-- Skip a line end that is escaped together with the blanks around it, given what follows the
backslash; `none` when there is none. -/
def escapedLineEnd (cs : List Char) : Except Error (Option (List Char)) :=
  match cs with
  | [] => .ok none
  | c :: _ =>
    if c = '\n' then .ok (some (cs.dropWhile isSpaceOrLine))
    else if isSpace c then
      match skipSpace cs with
      | [] => .ok (some [])
      | '\n' :: rest => .ok (some (rest.dropWhile isSpaceOrLine))
      | _ => malformed
    else .ok none

/-- A text over several lines up to its closing quotes, given what follows its opening ones. -/
def basicLines : Nat → List Char → Except Error (List Char × List Char)
  | 0, _ => malformed
  | _, [] => malformed
  | fuel + 1, c :: cs =>
    if c = '"' then
      match cs with
      | '"' :: '"' :: rest => .ok ([], rest)
      | _ => do
        let (s, rest) ← basicLines fuel cs
        return ('"' :: s, rest)
    else if c = '\\' then do
      match ← escapedLineEnd cs with
      | some cs => basicLines fuel cs
      | none =>
        let (e, cs) ← escape cs
        let (s, rest) ← basicLines fuel cs
        return (e :: s, rest)
    else if isControlInLines c then malformed
    else do
      let (s, rest) ← basicLines fuel cs
      return (c :: s, rest)

/-- A text on one line without escapes, given what follows its opening quote. -/
def literalText (cs : List Char) : Except Error (List Char × List Char) := do
  let (s, rest) ← expect (until? ['\''] cs)
  if s.any isControl then malformed else return (s, rest)

/-- A text over several lines without escapes, given what follows its opening quotes. -/
def literalLines (cs : List Char) : Except Error (List Char × List Char) := do
  let (s, rest) ← expect (until? ['\'', '\'', '\''] cs)
  if s.any isControlInLines then malformed else return (s, rest)

/-- A line end at the start of a text over several lines does not belong to it. -/
def skipFirstLineEnd : List Char → List Char
  | '\n' :: cs => cs
  | cs => cs

/-- Up to two quotes right behind the closing ones belong to the text. -/
def extraQuotes (quote : Char) (s : List Char) (rest : List Char) : List Char × List Char :=
  let extra := (rest.take 2).takeWhile (· = quote)
  (s ++ extra, rest.drop extra.length)

/-- Read a text in any of its four notations. -/
def text? (cs : List Char) : Option (Except Error (List Char × List Char)) :=
  match cs with
  | '"' :: '"' :: '"' :: rest => some do
    let (s, rest) ← basicLines (rest.length + 1) (skipFirstLineEnd rest)
    return extraQuotes '"' s rest
  | '"' :: rest => some (basicText (rest.length + 1) rest)
  | '\'' :: '\'' :: '\'' :: rest => some do
    let (s, rest) ← literalLines (skipFirstLineEnd rest)
    return extraQuotes '\'' s rest
  | '\'' :: rest => some (literalText rest)
  | _ => none

/-! ### Keys -/

/-- One part of a key. -/
def keyPart (cs : List Char) : Except Error (String × List Char) :=
  match cs with
  | '\'' :: rest => do
    let (s, rest) ← literalText rest
    return (String.ofList s, rest)
  | '"' :: rest => do
    let (s, rest) ← basicText (rest.length + 1) rest
    return (String.ofList s, rest)
  | _ =>
    match cs.takeWhile isBare with
    | [] => malformed
    | s => .ok (String.ofList s, cs.dropWhile isBare)

/-- The parts of a key, with dots between them, and the blanks behind it. -/
def keyParts : Nat → List Char → Except Error (Key × List Char)
  | 0, _ => malformed
  | fuel + 1, cs => do
    let (part, rest) ← keyPart cs
    match skipSpace rest with
    | '.' :: rest =>
      let (parts, rest) ← keyParts fuel (skipSpace rest)
      return (part :: parts, rest)
    | rest => return ([part], rest)

/-- A key. -/
def key (cs : List Char) : Except Error (Key × List Char) :=
  keyParts (cs.length + 1) cs

/-! ### Days and times -/

/-- A number of exactly `width` digits within bounds. -/
def fixed? (width low high : Nat) (cs : List Char) : Option (Nat × List Char) :=
  let digits := cs.take width
  if digits.length = width ∧ digits.all isDigit then
    let n := Text.digitsValue digits
    if low ≤ n ∧ n ≤ high then some (n, cs.drop width) else none
  else none

/-- A mark. -/
def mark? (c : Char) : List Char → Option (List Char)
  | [] => none
  | d :: cs => if d = c then some cs else none

/-- The millionths of a fraction of a second: its first six digits. -/
def fraction (cs : List Char) : Nat × List Char :=
  match cs with
  | '.' :: rest =>
    match rest.takeWhile isDigit with
    | [] => (0, cs)
    | digits =>
      let six := digits.take 6
      (Text.digitsValue (six ++ List.replicate (6 - six.length) '0'), rest.dropWhile isDigit)
  | _ => (0, cs)

/-- A time of day. -/
def clock? (cs : List Char) : Option (Clock × List Char) := do
  let (hour, cs) ← fixed? 2 0 23 cs
  let (minute, cs) ← fixed? 2 0 59 (← mark? ':' cs)
  let (second, cs) ← fixed? 2 0 59 (← mark? ':' cs)
  let (micros, cs) := fraction cs
  return (⟨hour, minute, second, micros⟩, cs)

/-- The distance from universal time. -/
def offset (cs : List Char) : Option Int × List Char :=
  let spelled (sign : Int) (rest : List Char) : Option (Int × List Char) := do
    let (hour, rest) ← fixed? 2 0 23 rest
    let (minute, rest) ← fixed? 2 0 59 (← mark? ':' rest)
    return (sign * (hour * 60 + minute : Nat), rest)
  let found : Option (Int × List Char) := match cs with
    | 'Z' :: rest => some (0, rest)
    | 'z' :: rest => some (0, rest)
    | '+' :: rest => spelled 1 rest
    | '-' :: rest => spelled (-1) rest
    | _ => none
  match found with
  | some (minutes, rest) => (some minutes, rest)
  | none => (none, cs)

/-- The days of a month. -/
def daysOf (year month : Nat) : Nat :=
  if month = 2 then
    if (year % 4 = 0 ∧ year % 100 ≠ 0) ∨ year % 400 = 0 then 29 else 28
  else if month = 4 ∨ month = 6 ∨ month = 9 ∨ month = 11 then 30
  else 31

/-- A day as it is spelled; it need not be one of the calendar. -/
def date? (cs : List Char) : Option (Date × List Char) := do
  let (year, cs) ← fixed? 4 0 9999 cs
  let (month, cs) ← fixed? 2 1 12 (← mark? '-' cs)
  let (day, cs) ← fixed? 2 1 31 (← mark? '-' cs)
  return (⟨year, month, day⟩, cs)

/-- Whether a spelled day is one of the calendar. -/
def isDay (d : Date) : Bool :=
  1 ≤ d.year && d.day ≤ daysOf d.year d.month

/-- A day, and a time of day with it. -/
def moment? (cs : List Char) : Option (Except Error (Value × List Char)) := do
  let (d, rest) ← date? cs
  let time : Option (Clock × List Char) := match rest with
    | c :: rest => if c = 'T' || c = 't' || c = ' ' then clock? rest else none
    | [] => none
  if isDay d then
    match time with
    | none => some (.ok (.date d, rest))
    | some (t, rest) =>
      let (minutes, rest) := offset rest
      some (.ok (.moment d t minutes, rest))
  else some malformed

/-! ### Numbers -/

/-- Digits, with single underscores between them. -/
def digitRun (isDigit : Char → Bool) : List Char → List Char × List Char
  | '_' :: c :: cs =>
    if isDigit c then
      let (ds, rest) := digitRun isDigit cs
      (c :: ds, rest)
    else ([], '_' :: c :: cs)
  | c :: cs =>
    if isDigit c then
      let (ds, rest) := digitRun isDigit cs
      (c :: ds, rest)
    else ([], c :: cs)
  | [] => ([], [])

/-- Digits that do not start with an underscore. -/
def digits? (isDigit : Char → Bool) : List Char → Option (List Char × List Char)
  | [] => none
  | c :: cs => if c = '_' then none else
    match digitRun isDigit (c :: cs) with
    | ([], _) => none
    | found => some found

/-- The value of digits to a base. -/
def valueIn (base : Nat) (ds : List Char) : Nat :=
  ds.foldl (fun n d => n * base + (Json.hexValue? d).getD 0) 0

/-- A whole number to the base sixteen, two or eight. -/
def based? (cs : List Char) : Option (Value × List Char) :=
  let read (base : Nat) (isDigit : Char → Bool) (rest : List Char) : Option (Value × List Char) :=
    (digits? isDigit rest).map fun (ds, rest) => (.int (valueIn base ds), rest)
  match cs with
  | '0' :: 'x' :: rest => read 16 (fun c => (Json.hexValue? c).isSome) rest
  | '0' :: 'b' :: rest => read 2 (fun c => c = '0' || c = '1') rest
  | '0' :: 'o' :: rest => read 8 (fun c => '0' ≤ c && c ≤ '7') rest
  | _ => none

/-- A sign. -/
def sign (cs : List Char) : Bool × List Char :=
  match cs with
  | '-' :: rest => (true, rest)
  | '+' :: rest => (false, rest)
  | _ => (false, cs)

/-- The whole part of a number: a lone zero, or digits that do not start with one. -/
def whole? (cs : List Char) : Option (List Char × List Char) :=
  match cs with
  | '0' :: rest => some (['0'], rest)
  | _ => digits? isDigit cs

/-- The digits behind a point. -/
def decimals? (cs : List Char) : Option (List Char × List Char) :=
  match cs with
  | '.' :: rest => digits? isDigit rest
  | _ => none

/-- An exponent. -/
def exponent? (cs : List Char) : Option (Int × List Char) :=
  match cs with
  | c :: rest =>
    if c = 'e' || c = 'E' then
      let (negative, rest) := sign rest
      (digits? isDigit rest).map fun (ds, rest) =>
        let n : Int := Text.digitsValue ds
        (if negative then -n else n, rest)
    else none
  | [] => none

/-- A number to the base ten. -/
def decimal? (cs : List Char) : Option (Except Error (Value × List Char)) := do
  let (negative, rest) := sign cs
  let (whole, rest) ← whole? rest
  let decimals := decimals? rest
  let rest := (decimals.map Prod.snd).getD rest
  let exponent := exponent? rest
  let rest := (exponent.map Prod.snd).getD rest
  match decimals, exponent with
  | none, none =>
    if Decimal.digitLimit < whole.length then some (.error (.tooLong whole.length))
    else
      let n : Int := Text.digitsValue whole
      some (.ok (.int (if negative then -n else n), rest))
  | _, _ =>
    let ds := (decimals.map Prod.fst).getD []
    let e := (exponent.map Prod.fst).getD 0
    some (.ok (.float (Binary64.ofDecimal negative (Text.digitsValue (whole ++ ds))
      (e - ds.length)), rest))

/-- The words that stand for a value. -/
def words : List (String × Value) := [
  ("true", .bool true),
  ("false", .bool false),
  ("inf", .float (.infinite false)),
  ("nan", .float .nan),
  ("-inf", .float (.infinite true)),
  ("+inf", .float (.infinite false)),
  ("-nan", .float .nan),
  ("+nan", .float .nan)]

/-- A value without parts. -/
def scalar (cs : List Char) : Except Error (Value × List Char) :=
  match text? cs with
  | some result => do
    let (s, rest) ← result
    return (.text (String.ofList s), rest)
  | none =>
    match words.find? fun (w, _) => w.toList.isPrefixOf cs with
    | some (w, v) => .ok (v, cs.drop w.length)
    | none =>
      match moment? cs with
      | some result => result
      | none =>
        match clock? cs with
        | some (t, rest) => .ok (.clock t, rest)
        | none =>
          match based? cs with
          | some found => .ok found
          | none => ((decimal? cs).getD malformed)

/-! ### Tables under way -/

/-- Change the table at a path, making the tables on the way.  With `enter`, the way leads
through lists to their last tables. -/
def modify (enter : Bool) (change : Fields → Option Fields) : Key → Fields → Option Fields
  | [], t => change t
  | k :: ks, t =>
    match Assoc.get? k t with
    | none => (modify enter change ks []).map fun inner => Assoc.put k (.table inner) t
    | some (.table inner) =>
      (modify enter change ks inner).map fun inner => Assoc.put k (.table inner) t
    | some (.list items) =>
      match enter, items.getLast? with
      | true, some (.table inner) =>
        (modify enter change ks inner).map fun inner =>
          Assoc.put k (.list (items.dropLast ++ [.table inner])) t
      | _, _ => none
    | _ => none

/-- Give a new key of a table a value. -/
def setNew (k : String) (v : Value) (t : Fields) : Option Fields :=
  match Assoc.get? k t with
  | none => some (Assoc.put k v t)
  | some _ => none

/-- Add an empty table to the list at a key. -/
def appendTable (k : String) (t : Fields) : Option Fields :=
  match Assoc.get? k t with
  | none => some (Assoc.put k (.list [.table []]) t)
  | some (.list items) => some (Assoc.put k (.list (items ++ [.table []])) t)
  | some _ => none

/-- Whether a key lies at or below one of the given ones. -/
def isBelow (keys : List Key) (k : Key) : Bool :=
  keys.any fun closed => closed.isPrefixOf k

/-- Whether a value has parts. -/
def isCompound : Value → Bool
  | .list _ => true
  | .table _ => true
  | _ => false

/-! ### Values -/

/-- How deeply values may be nested: a list counts as two and a table as three. -/
def depthLimit : Nat := 980

mutual

/-- Read a value.  `depth` is the nesting still allowed; `fuel` bounds the steps. -/
def value : Nat → Nat → List Char → Except Error (Value × List Char)
  | 0, _, _ => malformed
  | fuel + 1, depth, cs =>
    match cs with
    | '[' :: rest =>
      if depth < 2 then .error .tooDeep
      else do
        let (items, rest) ← items fuel (depth - 2) (← skipLines rest.length rest)
        return (.list items, rest)
    | '\x7b' :: rest =>
      if depth < 3 then .error .tooDeep
      else
        match skipSpace rest with
        | '\x7d' :: rest => .ok (.table [], rest)
        | rest => do
          let (t, rest) ← fields fuel (depth - 3) [] [] rest
          return (.table t, rest)
    | cs => scalar cs

/-- Read the items of a list up to its closing bracket. -/
def items : Nat → Nat → List Char → Except Error (List Value × List Char)
  | 0, _, _ => malformed
  | fuel + 1, depth, cs =>
    match cs with
    | ']' :: rest => .ok ([], rest)
    | cs => do
      let (v, rest) ← value fuel depth cs
      match ← skipLines rest.length rest with
      | ']' :: rest => return ([v], rest)
      | ',' :: rest =>
        let (vs, rest) ← items fuel depth (← skipLines rest.length rest)
        return (v :: vs, rest)
      | _ => malformed

/-- Read the pairs of a table written as a value up to its closing brace; `closed` are the keys
whose values have parts. -/
def fields : Nat → Nat → List Key → Fields → List Char → Except Error (Fields × List Char)
  | 0, _, _, _, _ => malformed
  | fuel + 1, depth, closed, t, cs => do
    let (k, rest) ← key cs
    match rest with
    | '=' :: rest =>
      let (v, rest) ← value fuel depth (skipSpace rest)
      if isBelow closed k then throw .malformed
      let t ← expect (modify false (setNew (k.getLast?.getD "") v) k.dropLast t)
      match skipSpace rest with
      | '\x7d' :: rest => return (t, rest)
      | ',' :: rest =>
        let closed := if isCompound v then k :: closed else closed
        fields fuel depth closed t (skipSpace rest)
      | _ => malformed
    | _ => malformed

end

/-! ### Statements -/

/-- A document under way. -/
structure State where
  table : Fields := []
  /-- The path of the open table. -/
  header : Key := []
  /-- Tables that may not be opened by a header any more. -/
  opened : List Key := []
  /-- Tables that may not be opened once the next header is read. -/
  pending : List Key := []
  /-- Values with parts, to which nothing may be added. -/
  closed : List Key := []

/-- A header `[key]`, given what follows its bracket. -/
def openTable (s : State) (cs : List Char) : Except Error (State × List Char) := do
  let (k, rest) ← key (skipSpace cs)
  let opened := s.pending ++ s.opened
  if opened.contains k || isBelow s.closed k then throw .malformed
  let t ← expect (modify true some k s.table)
  match rest with
  | ']' :: rest =>
    return ({ s with table := t, header := k, opened := k :: opened, pending := [] }, rest)
  | _ => malformed

/-- A header `[[key]]`, given what follows its brackets. -/
def openListed (s : State) (cs : List Char) : Except Error (State × List Char) := do
  let (k, rest) ← key (skipSpace cs)
  if isBelow s.closed k then throw .malformed
  let free (keys : List Key) : List Key := keys.filter fun other => !k.isPrefixOf other
  let t ← expect (modify true (appendTable (k.getLast?.getD "")) k.dropLast s.table)
  match rest with
  | ']' :: ']' :: rest =>
    return ({ table := t, header := k, opened := k :: free (s.pending ++ s.opened), pending := [],
              closed := free s.closed }, rest)
  | _ => malformed

/-- The proper beginnings of a key, the shortest first. -/
def beginnings (k : Key) : List Key :=
  (List.range (k.length - 1)).map fun i => k.take (i + 1)

/-- A pair of a key and a value. -/
def pair (s : State) (cs : List Char) : Except Error (State × List Char) := do
  let (k, rest) ← key cs
  match rest with
  | '=' :: rest =>
    let rest := skipSpace rest
    let (v, rest) ← value (2 * rest.length + 2) depthLimit rest
    let on := (beginnings k).map (s.header ++ ·)
    if on.any s.opened.contains then throw .malformed
    let whole := s.header ++ k
    if isBelow s.closed whole.dropLast then throw .malformed
    let t ← expect (modify true (setNew (k.getLast?.getD "") v) whole.dropLast s.table)
    let closed := if isCompound v then whole :: s.closed else s.closed
    return ({ s with table := t, pending := on ++ s.pending, closed := closed }, rest)
  | _ => malformed

/-- The end of a statement: blanks, a comment and the end of the line or the document. -/
def endOfLine (cs : List Char) : Except Error (List Char) := do
  match ← skipComment (skipSpace cs) with
  | [] => return []
  | '\n' :: rest => return rest
  | _ => malformed

/-- Read statements up to the end. -/
def statements : Nat → State → List Char → Except Error State
  | 0, _, _ => malformed
  | fuel + 1, s, cs =>
    match skipSpace cs with
    | [] => .ok s
    | '\n' :: rest => statements fuel s rest
    | '#' :: rest => do statements fuel s (← endOfLine ('#' :: rest))
    | '[' :: '[' :: rest => do
      let (s, rest) ← openListed s rest
      statements fuel s (← endOfLine rest)
    | '[' :: rest => do
      let (s, rest) ← openTable s rest
      statements fuel s (← endOfLine rest)
    | cs => do
      let (s, rest) ← pair s cs
      statements fuel s (← endOfLine rest)

/-- Read a document. -/
def read (source : List Char) : Except Error Fields := do
  let cs := joinLineEnds source
  return (← statements (cs.length + 1) {} cs).table

end BorrowGraph.Toml
