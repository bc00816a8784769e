/-
The options that settings have, and how they are spelled.

Every setting has an option named for its key.  A style says how names begin, how they are
marked, which further names there are, and whether options for truth values take a value.
-/
import BorrowGraph.Settings
import BorrowGraph.Settings.Standard.Directive

namespace BorrowGraph.Settings

/-- Whether a setting is a truth value. -/
def Key.isSwitch : Key → Bool
  | .dumpInfo | .showVariables | .showIndices | .debugInfo => true
  | _ => false

/-- The default of a setting that is a truth value. -/
def Key.isOn : Key → Bool
  | .debugInfo => false
  | _ => true

namespace Standard.Flags

/-- How options for truth values work. -/
inductive Switches where
  /-- They take a value like others. -/
  | valued
  /-- There is one option for each of the two values. -/
  | dual
  /-- An option turns the default around. -/
  | toggle
  deriving DecidableEq, Repr

/-- How arguments are read. -/
structure Style where
  /-- How the names of options begin. -/
  start : String := ""
  /-- The characters that mark an option: all of them twice, but no more than the name has. -/
  mark : List Char := ['-']
  /-- The text that stands for null. -/
  nullText : Option String := some "null"
  /-- Whether the options can be described: what stands for null is a text, or not shown. -/
  isDescribed : Bool := true
  switches : Switches := .valued
  /-- Whether names have dashes for underscores. -/
  dashes : Bool := false
  /-- Further names of options. -/
  shortcuts : List (String × Value) := []
  /-- Whether unknown arguments are passed over. -/
  ignoreUnknown : Bool := false
  /-- Whether wrong arguments end the run. -/
  exits : Bool := true
  /-- Whether options may be written in capital letters. -/
  foldsLetters : Bool := true
  deriving Repr

/-- An option: the setting, none for help, and the names, with the truth value that each of
them gives unless it takes a value. -/
structure Flag where
  key : Option Key
  names : List (String × Option Bool)
  deriving DecidableEq, Repr

/-- An option as messages name it. -/
def Flag.title (f : Flag) : String :=
  "/".intercalate (f.names.map Prod.fst)

/-- A name without its marks, and how many marks it has at most. -/
structure Stem where
  text : String
  length : Nat
  deriving DecidableEq, Repr

def Stem.ofText (s : String) : Stem :=
  ⟨s, s.length⟩

/-- The name that a value stands for: a text, or a list or table, written out. -/
def Stem.ofValue : Value → Except Fault Stem
  | .text s => .ok (.ofText s)
  | .list vs => .ok ⟨(Value.list vs).plain, vs.length⟩
  | .table fs => .ok ⟨(Value.table fs).plain, fs.length⟩
  | _ => .error .wrongShape

namespace Style

/-- A name with dashes for underscores, if that is the style. -/
def dashed (s : Style) (name : String) : String :=
  if s.dashes then String.ofList (name.toList.map fun c => if c = '_' then '-' else c) else name

/-- A name with its marks. -/
def marked (s : Style) (name : Stem) : Except Fault String :=
  let text := String.ofList ((s.mark ++ s.mark).take name.length) ++ name.text
  match text.toList with
  | [] => .error .characterOutOfRange
  | c :: _ => if c ∈ s.mark then .ok text else .error (.badOption text (String.ofList s.mark))

/-- The names of the option for a setting, without those that others have already. -/
def stemsOf (s : Style) (taken : List String) (k : Key) : Except Fault (List Stem) :=
  let own := s.dashed (s.start ++ k.text)
  let stems := if own ∈ taken then [] else [Stem.ofText own]
  s.shortcuts.foldlM (fun stems (target, v) => do
    if stems.any (·.text = target) then
      let values ← match v with
        | .text t => pure [Value.text t]
        | v => v.elements
      let further ← values.mapM Stem.ofValue
      return stems ++ further.filter fun f => f.text ∉ taken
    else return stems) stems

/-- A name with two dashes that gives the truth value `true`, and its counterpart. -/
def dualNames (name : String) : List (String × Option Bool) :=
  match name.toList with
  | '-' :: '-' :: rest => [(name, some true), ("--no-" ++ String.ofList rest, some false)]
  | _ => [(name, some true)]

/-- A name that says no, unless it is a single letter. -/
def negated (name : Stem) : Stem :=
  if name.length = 1 then name else { name with text := "no-" ++ name.text }

/-- The option for a setting with some names. -/
def flagOf (s : Style) (k : Key) (stems : List Stem) : Except Fault Flag := do
  let switches := if k.isSwitch then s.switches else .valued
  let turnsOff := switches = .toggle && k.isOn
  let names ← (if turnsOff then stems.map negated else stems).mapM s.marked
  return {
    key := some k
    names := match switches with
      | .valued => names.map fun n => (n, none)
      | .dual => names.flatMap dualNames
      | .toggle => names.map fun n => (n, some !k.isOn) }

/-- The option for help.  It has dashes if they are among the marks. -/
def helpFlag (s : Style) : Except Fault Flag :=
  let c := if '-' ∈ s.mark then '-' else s.mark.headD '-'
  let names := [[c, 'h'], [c, c, 'h', 'e', 'l', 'p']]
  let isLong (name : List Char) : Bool := (name[1]?.map s.mark.contains).getD false
  let chosen := (names.find? isLong).getD [c, 'h']
  if chosen.all (· ∈ s.mark) then .error (.unnamedOption (String.ofList [c, c, 'h', 'e', 'l', 'p']))
  else .ok { key := none, names := names.map fun n => (String.ofList n, some true) }

/-- The options so far, and the names that they have without marks. -/
structure Table where
  flags : List Flag
  taken : List String := []
  deriving DecidableEq, Repr

/-- The option of a name, with the truth value that the name gives. -/
def Table.find? (t : Table) (name : String) : Option (Flag × Option Bool) :=
  t.flags.findSome? fun f => (Assoc.get? name f.names).map fun b => (f, b)

/-- The options with that for a further setting, unless all its names are taken. -/
def Table.add (s : Style) (t : Table) (k : Key) : Except Fault Table := do
  let stems ← s.stemsOf t.taken k
  if k = .proc ∧ !s.isDescribed then throw .wrongShape
  if stems.isEmpty ∨ s.start ++ k.text ∈ t.taken then return t
  else
    let flag ← s.flagOf k stems
    match (flag.names.map Prod.fst).filter fun n => (t.find? n).isSome with
    | [] => return { flags := t.flags ++ [flag], taken := t.taken ++ stems.map Stem.text }
    | names => throw (.conflict flag.title names)

/-- All options. -/
def table (s : Style) : Except Fault Table := do
  Key.all.foldlM (Table.add s) { flags := [← s.helpFlag] }

end Style
end Standard.Flags
end BorrowGraph.Settings
