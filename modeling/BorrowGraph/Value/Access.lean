/-
Access to values of unknown shape.

A reader of a document asks for fields, elements and numbers and learns, as a fault, when the
value at hand has none.  Asking a value other than a table for an optional field and for a
required one are different faults.
-/
import BorrowGraph.Assoc
import BorrowGraph.Fault
import BorrowGraph.Value

namespace BorrowGraph.Value

/-- The fields of a table. -/
def fields : Value → Except Fault (List (String × Value))
  | .table fs => .ok fs
  | _ => .error .noFields

/-- The value of an optional field. -/
def field? (v : Value) (name : String) : Except Fault (Option Value) := do
  return Assoc.get? name (← v.fields)

/-- The value of an optional field, unless it is null. -/
def present? (v : Value) (name : String) : Except Fault (Option Value) := do
  match ← v.field? name with
  | none | some .null => return none
  | some w => return some w

/-- The value of a required field. -/
def require (v : Value) (name : String) : Except Fault Value :=
  match v with
  | .table fs =>
    match Assoc.get? name fs with
    | some w => .ok w
    | none => .error (.missingField name)
  | _ => .error .wrongShape

/-- The elements of a value that can be gone through: the items of a list, the characters of a text,
or the field names of a table. -/
def elements : Value → Except Fault (List Value)
  | .list items => .ok items
  | .text s => .ok (s.toList.map fun c => .text (String.singleton c))
  | .table fs => .ok (fs.map fun (k, _) => .text k)
  | _ => .error .wrongShape

/-- The elements of an optional field; there are none when it is missing. -/
def elementsOf (v : Value) (name : String) : Except Fault (List Value) := do
  match ← v.field? name with
  | none => return []
  | some w => w.elements

/-- The plain text of an optional field, empty when it is missing. -/
def textOf (v : Value) (name : String) : Except Fault String := do
  return ((← v.field? name).map Value.plain).getD ""

/-- The whole number that a value stands for: a number is cut off after its whole part, a text is
read, and the two truth values count as one and zero. -/
def toInteger : Value → Except Fault Int
  | .int n => .ok n
  | .bool b => .ok (if b then 1 else 0)
  | .float .nan => .error .notANumber
  | .float (.infinite _) => .error .infinite
  | .float x => .ok (x.truncate?.getD 0)
  | .text s => (Decimal.readInteger s.toList).mapError (Fault.ofDecimal s.toList)
  | _ => .error .wrongShape

end BorrowGraph.Value
