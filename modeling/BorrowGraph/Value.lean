/-
Values of self-describing documents.

Bundles and settings files hold values whose shape is known only once they are read.  A table
keeps its fields in the order in which they were first written.  A value has two texts: its
plain text, in which a string stands for itself, and its quoted text, which shows strings
between quotes and is also used for everything inside a list or a table.
-/
import BorrowGraph.Number.Binary64
import BorrowGraph.Text.Quoted

namespace BorrowGraph

/-- A day of the calendar. -/
structure Date where
  year : Nat
  month : Nat
  day : Nat
  deriving DecidableEq, Repr

/-- A time of day. -/
structure Clock where
  hour : Nat
  minute : Nat
  second : Nat
  micros : Nat
  deriving DecidableEq, Repr

/-- A value of a document. -/
inductive Value where
  | null
  | bool (b : Bool)
  | int (n : Int)
  | float (x : Binary64)
  | text (s : String)
  | list (items : List Value)
  | table (fields : List (String × Value))
  | date (d : Date)
  | clock (t : Clock)
  /-- A day and a time of day, with the distance from universal time in minutes if it is known. -/
  | moment (d : Date) (t : Clock) (offset : Option Int)
  deriving Repr, Inhabited

/-! ### Texts of days and times -/

namespace Date

def plain (d : Date) : String :=
  Decimal.padded 4 d.year ++ "-" ++ Decimal.padded 2 d.month ++ "-" ++ Decimal.padded 2 d.day

def arguments (d : Date) : String :=
  Nat.repr d.year ++ ", " ++ Nat.repr d.month ++ ", " ++ Nat.repr d.day

end Date

namespace Clock

def plain (t : Clock) : String :=
  let base := Decimal.padded 2 t.hour ++ ":" ++ Decimal.padded 2 t.minute ++ ":"
    ++ Decimal.padded 2 t.second
  if t.micros = 0 then base else base ++ "." ++ Decimal.padded 6 t.micros

/-- Seconds and microseconds are left out when they, and all that follows, are zero. -/
def arguments (t : Clock) : String :=
  let base := Nat.repr t.hour ++ ", " ++ Nat.repr t.minute
  if t.micros ≠ 0 then base ++ ", " ++ Nat.repr t.second ++ ", " ++ Nat.repr t.micros
  else if t.second ≠ 0 then base ++ ", " ++ Nat.repr t.second
  else base

end Clock

/-- A distance from universal time as hours and minutes. -/
def offsetPlain (minutes : Int) : String :=
  (if minutes < 0 then "-" else "+") ++ Decimal.padded 2 (minutes.natAbs / 60) ++ ":"
    ++ Decimal.padded 2 (minutes.natAbs % 60)

/-- A distance from universal time as a quantity of days and seconds. -/
def offsetQuoted (minutes : Int) : String :=
  if minutes = 0 then "datetime.timezone.utc"
  else
    let seconds : Int := minutes * 60
    let span :=
      if seconds < 0 then "days=-1, seconds=" ++ Decimal.text (seconds + 86400)
      else "seconds=" ++ Decimal.text seconds
    "datetime.timezone(datetime.timedelta(" ++ span ++ "))"

namespace Value

mutual

/-- The text of a value inside another one, and wherever strings are shown between quotes. -/
def quoted : Value → String
  | .null => "None"
  | .bool b => if b then "True" else "False"
  | .int n => Decimal.text n
  | .float x => x.text
  | .text s => Text.quote s
  | .list items => "[" ++ quotedItems items ++ "]"
  | .table fields => "\x7b" ++ quotedFields fields ++ "\x7d"
  | .date d => "datetime.date(" ++ d.arguments ++ ")"
  | .clock t => "datetime.time(" ++ t.arguments ++ ")"
  | .moment d t offset =>
    let zone := match offset with
      | none => ""
      | some minutes => ", tzinfo=" ++ offsetQuoted minutes
    "datetime.datetime(" ++ d.arguments ++ ", " ++ t.arguments ++ zone ++ ")"

def quotedItems : List Value → String
  | [] => ""
  | [v] => v.quoted
  | v :: vs => v.quoted ++ ", " ++ quotedItems vs

def quotedFields : List (String × Value) → String
  | [] => ""
  | [(k, v)] => Text.quote k ++ ": " ++ v.quoted
  | (k, v) :: fields => Text.quote k ++ ": " ++ v.quoted ++ ", " ++ quotedFields fields

end

mutual

/-- The whole numbers that the text of a value shows. -/
def integers : Value → List Int
  | .int n => [n]
  | .list items => integersOfItems items
  | .table fields => integersOfFields fields
  | _ => []

def integersOfItems : List Value → List Int
  | [] => []
  | v :: vs => v.integers ++ integersOfItems vs

def integersOfFields : List (String × Value) → List Int
  | [] => []
  | (_, v) :: fields => v.integers ++ integersOfFields fields

end

/-- The text of a value on its own. -/
def plain : Value → String
  | .text s => s
  | .date d => d.plain
  | .clock t => t.plain
  | .moment d t offset =>
    d.plain ++ " " ++ t.plain ++ (match offset with
      | none => ""
      | some minutes => offsetPlain minutes)
  | v => v.quoted

/-- Whether a value counts as present: everything but null, false, zero and the empty string, list
and table. -/
def isTruthy : Value → Bool
  | .null => false
  | .bool b => b
  | .int n => n != 0
  | .float x => !x.isZero
  | .text s => !s.isEmpty
  | .list items => !items.isEmpty
  | .table fields => !fields.isEmpty
  | _ => true

/-- Whether a value is null. -/
def isNull : Value → Bool
  | .null => true
  | _ => false

end Value
end BorrowGraph
