/-
Companion files.

Given values may name files with further variables.  The variables set nothing, but the files
are read if they are there, and a file that cannot be read ends the loading of settings.
-/
import BorrowGraph.Encoding.Names
import BorrowGraph.Settings.Standard.Directive

namespace BorrowGraph.Settings.Standard

/-- The encoding of companion files, which is only looked up for a file that is there. -/
def companionEncoding : Value → Except Fault Encoding
  | .null => .ok .utf8
  | .text name =>
    if name.toList.contains (Char.ofNat 0) then .error .nullInName
    else
      match Encoding.ofName name with
      | .text e => .ok e
      | .notText => .error (.notTextEncoding name)
      | .unknown => .error (.unknownEncoding name)
  | _ => .error .wrongShape

/-- Whether a number of directories above can be searched.  It is only asked for when a file is
not there, and no file is there above, either.  A fraction is a number only as long as there is
nothing to search. -/
def isDepth : Value → Bool
  | .null | .int _ | .bool _ => true
  | .float x => !x.isPositive
  | _ => false

/-- Read the bytes of a companion file as text. -/
def checkCompanion (bytes : List UInt8) (e : Encoding) : Except Fault Unit :=
  match e.fault? bytes with
  | none => .ok ()
  | some (.notUtf8 error) => .error (.undecodable error)
  | some problem => .error (.misread problem)

/-- Read a companion file if it is there. -/
def readCompanion (w : Surroundings) (encoding depth : Value) : Value → Except Fault Unit
  | .text s => do
    let path ← w.expand (Path.ofText s)
    if ← w.files.isFile path then
      let bytes ← w.files.readBytes path
      checkCompanion bytes (← companionEncoding encoding)
    else unless path.isAbsolute || isDepth depth do throw .wrongShape
  | _ => .error .wrongShape

/-- The companion files that a value names: one, or several in a list. -/
def companionsOf : Value → Except Fault (List Value)
  | .null => .ok []
  | .text s => .ok [.text s]
  | v => v.elements

/-- Read the companion files that given values name. -/
def readCompanions (w : Surroundings) (given : Layer) : Except Fault Unit := do
  let encoding := Directive.companionEncoding.value given
  let depth := Directive.companionDepth.value given
  (← companionsOf (Directive.companions.value given)).forM (readCompanion w encoding depth)

end BorrowGraph.Settings.Standard
