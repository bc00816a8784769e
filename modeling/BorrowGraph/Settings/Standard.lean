/-
The standard settings library.

Names of keys and variables may be spelled in small or capital letters; within a layer the
first spelling of a key counts, and of several variables the last.  Of each key the first
source that has it counts, except that tables are merged.  Only then are the values checked,
and of several errors the first is reported: keys in their order, then unknown keys.

Among the values given, reserved keys ask for more: another way to read the environment,
companion files in any encoding, or arguments to be read as settings.  What is proved about
settings is proved of every library that follows the rules for values without reserved keys,
and this is the one that runs.
-/
import BorrowGraph.Settings.Library
import BorrowGraph.Settings.Standard.Companions
import BorrowGraph.Settings.Standard.Flags
import BorrowGraph.Toml

namespace BorrowGraph.Settings.Standard

/-! ### Layers -/

/-- The setting that a key stands for; letters may be small or capital. -/
def keyOf? (s : String) : Option Key :=
  Key.all.find? fun k => k.text = Text.lower s

/-- The value that a layer gives to a setting: that of the first spelling of its key. -/
def valueOf? (given : Layer) (k : Key) : Option Value :=
  (given.find? fun (name, _) => keyOf? name = some k).map Prod.snd

/-- A layer with its known keys spelled alike, followed by the unknown ones. -/
def normalize (given : Layer) : Layer :=
  (Key.all.filterMap fun k => (valueOf? given k).map fun v => (k.text, v))
    ++ given.filter fun (name, _) => (keyOf? name).isNone

mutual

/-- A value seen through a higher one. -/
def mergeOver (base : Value) : Value → Value
  | .table upper =>
    match base with
    | .table lower => .table (mergeFields lower upper)
    | _ => .table upper
  | v => v

/-- A table seen through a higher one. -/
def mergeFields (base : Layer) : Layer → Layer
  | [] => base
  | (k, v) :: rest =>
    let merged := match Assoc.get? k base with
      | some w => mergeOver w v
      | none => v
    mergeFields (Assoc.put k merged base) rest

end

/-- All layers merged, the first of which counts most. -/
def mergeAll (layers : List Layer) : Layer :=
  layers.foldl (fun upper lower => mergeFields lower upper) []

/-- The name of an environment variable as far as it matters. -/
def Reading.fold (r : Reading) (name : String) : String :=
  if r.exactLetters then name else Text.lower name

/-- Whether an environment variable counts. -/
def Reading.counts (r : Reading) (value : String) : Bool :=
  !(r.ignoreEmpty && value.isEmpty)

/-- What the text of an environment variable stands for. -/
def Reading.meaning (r : Reading) (value : String) : Value :=
  if r.nullText = some value then .null else .text value

/-- The value that the environment gives to a setting; the last variable counts. -/
def environmentValue? (r : Reading) (start : String) (environment : List (String × String))
    (k : Key) : Option Value :=
  let name := r.fold (start ++ k.text)
  ((environment.filter fun (n, v) => r.fold n = name && r.counts v).getLast?).map
    fun (_, v) => r.meaning v

/-- The layer of the environment. -/
def environmentLayer (r : Reading) (environment : List (String × String)) : Except Fault Layer :=
  match r.start with
  | none => .error (.source (.unnamed Key.logDir.text "EnvSettingsSource"))
  | some start => .ok <| Key.all.filterMap fun k =>
    (environmentValue? r start environment k).map fun v => (k.text, v)

/-- The fault of a settings file that cannot be read. -/
def fileFault : Toml.Error → Fault
  | .malformed => .notToml
  | .tooLong n => .tooManyDigits n
  | .tooDeep => .nestedTooDeeply

/-- The values of a file; a file that is not there gives nothing. -/
def readFile (w : Surroundings) (path : Path) : Except Fault Layer := do
  let place ← w.expand path
  if ← w.files.isFile place then
    let bytes ← w.files.readBytes place
    let chars ← (Utf8.decode bytes).mapError .undecodable
    (Toml.read chars).mapError fileFault
  else return []

/-! ### Sources -/

/-- Read the companion files that the values given name, or the values that stand in place of
all sources. -/
def start (w : Surroundings) (given : Layer) : Except Fault (Option Layer) :=
  if (Assoc.get? ownKey given).isSome then .error .wrongShape
  else
    match Directive.sources.value given with
    | .null => do
      let _ ← Reading.ofGiven given
      readCompanions w given
      return none
    | v => do return some (← sourcesLayer v)

/-- The layer of a source. -/
def layerOf (w : Surroundings) (given : Layer) : Source → Except Fault Layer
  | .given => .ok (normalize (withoutDirectives given))
  | .environment => do environmentLayer (← Reading.ofGiven given) w.environment
  | .file fields => .ok (normalize fields)

/-- All sources merged.  Arguments that the values given name stand above them. -/
def combine (w : Surroundings) (given : Layer) (sources : List Source) : Except Problem Layer := do
  let highest ← Flags.layerOfGiven given
  let layers ← (sources.mapM (layerOf w given)).mapError .fault
  return mergeAll (highest :: layers)

/-! ### Checking -/

/-- The checked value of a key, or its default when no layer gives it one. -/
def check {α : Type} (values : Layer) (k : Key) (default : α) (read : Value → Except Complaint α) :
    Except Refusal α :=
  match Assoc.get? k.text values with
  | none => .ok default
  | some v => (read v).mapError fun c => .value k.text c.text v

/-- The settings that merged layers give. -/
def validate (prepare : Key → Value → Value) (values : Layer) : Except Refusal Settings := do
  let text (k : Key) (v : Value) := readText (prepare k v)
  let bool (k : Key) (v : Value) := readBool (prepare k v)
  let d : Settings := {}
  let logDir ← check values .logDir d.logDir (text .logDir)
  let factsDir ← check values .factsDir d.factsDir (text .factsDir)
  let proc ← check values .proc d.proc fun v => readOptionalText (prepare .proc v)
  let dumpInfo ← check values .dumpInfo d.dumpInfo (bool .dumpInfo)
  let showVariables ← check values .showVariables d.showVariables (bool .showVariables)
  let showIndices ← check values .showIndices d.showIndices (bool .showIndices)
  let debugInfo ← check values .debugInfo d.debugInfo (bool .debugInfo)
  match values.find? fun (name, _) => name ∉ Key.all.map Key.text with
  | some (name, _) => throw (.unknown name)
  | none => return ⟨logDir, factsDir, proc, dumpInfo, showVariables, showIndices, debugInfo⟩

/-- Whether a fault is taken for one of the values given. -/
def isValueFault : Fault → Bool
  | .notToml => true
  | .tooManyDigits _ => true
  | .undecodable _ => true
  | .misread p => p ≠ .stuck
  | .nullInName => true
  | .notAPair _ => true
  | .source _ => true
  | .badOption _ _ => true
  | .unnamedOption _ => true
  | _ => false

def asRefusal? (given : Layer) (f : Fault) : Option Refusal :=
  if isValueFault f then some (.value "" ("Value error, " ++ f.text) (.table given)) else none

end Standard

/-- The library that runs. -/
def Library.standard : Library where
  fold := Text.lower
  readText v := (Standard.readText v).toOption
  readOptionalText v := (Standard.readOptionalText v).toOption
  readBool v := (Standard.readBool v).toOption
  start := Standard.start
  readFile := Standard.readFile
  combine := Standard.combine
  validate := Standard.validate
  asRefusal? := Standard.asRefusal?

end BorrowGraph.Settings
