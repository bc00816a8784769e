/-
Loading settings.

The sources, from the first, which counts most: values given directly, the environment, a named
file, and a default file.  A library reads and merges them and checks the values; what it
refuses is reported under the key, and a file that it cannot read under the path of the file.
-/
import BorrowGraph.Log
import BorrowGraph.Settings.Library

namespace BorrowGraph.Settings

def logSource : String := "mir_dump.configuration"

/-- The file that is read whenever it is there. -/
def defaultFile : Path := Path.ofText "mir_dump.toml"

/-- The environment variable that names a file. -/
def fileVariable : String := "MIR_DUMP_CONFIG"

/-! ### Diagnostics -/

/-- The diagnostic for settings that cannot be used. -/
def diagnostic (text : String) (context : List (String × String)) : Diagnostic :=
  { kind := .configuration, code := .invalidConfigValue, text := text, context := context }

def Refusal.diagnostic : Refusal → Diagnostic
  | .unknown key => Settings.diagnostic ("unknown configuration key '" ++ key ++ "'")
      [("known", ",".intercalate (Key.all.map Key.text))]
  | .value key complaint v =>
    Settings.diagnostic ("invalid value for '" ++ key ++ "': " ++ complaint) [("value", v.plain)]

def Problem.failure : Problem → Failure
  | .refused r => .diagnostic r.diagnostic
  | .fault f => .fault f

/-- The diagnostic for a settings file that cannot be read. -/
def unreadableDiagnostic (path : Path) (f : Fault) : Diagnostic :=
  { diagnostic ("cannot read configuration file: " ++ f.text) [("path", path.text)] with
    code := .invalidConfigFile }

/-! ### Sources -/

/-- The file that the environment names, if there is one. -/
def environmentFile {σ : Type} (w : Surroundings) : Task σ (Option Path) := do
  match w.lookup? fileVariable with
  | none => return none
  | some named =>
    if named.isEmpty then return none
    else
      let path := Path.ofText named
      if ← Task.ofExcept ((w.files.isFile path).mapError .fault) then return some path
      else
        Task.debug logSource (fileVariable ++ "=" ++ named ++ " does not name a file; ignored")
        return none

/-- The named file: the one given, or else the one that the environment names. -/
def namedFile {σ : Type} (w : Surroundings) (explicit : Option Path) : Task σ (Option Path) :=
  match explicit with
  | some path => return some path
  | none => environmentFile w

/-- The source of the named file, if there is one. -/
def namedSource (lib : Library) (w : Surroundings) : Option Path → Except Fault (List Source)
  | none => .ok []
  | some path => do return [.file (← lib.readFile w path)]

/-- All sources, when only the named file is still to be found. -/
def sourcesBelow {σ : Type} (lib : Library) (w : Surroundings) (named : Task σ (Option Path)) :
    Task σ (List Source) := do
  let upper ← Task.ofExcept ((namedSource lib w (← named)).mapError .fault)
  let lowest ← Task.ofExcept ((lib.readFile w defaultFile).mapError .fault)
  return [.given, .environment] ++ upper ++ [.file lowest]

/-! ### Making settings -/

/-- An empty name of a function is none; every other value is checked as it is. -/
def prepared : Key → Value → Value
  | .proc, .text s => if s.isEmpty then .null else .text s
  | _, v => v

/-- The merged values of all sources, unless there are values that stand in their place. -/
def mergedValues {σ : Type} (lib : Library) (w : Surroundings) (given : Layer)
    (sources : Task σ (List Source)) : Option Layer → Task σ Layer
  | some values => return values
  | none => do Task.ofExcept ((lib.combine w given (← sources)).mapError Problem.failure)

/-- Settings from all sources. -/
def make {σ : Type} (lib : Library) (w : Surroundings) (named : Task σ (Option Path))
    (given : Layer) :
    Task σ Settings := do
  let instead ← Task.ofExcept ((lib.start w given).mapError .fault)
  let values ← mergedValues lib w given (sourcesBelow lib w named) instead
  Task.ofExcept ((lib.validate prepared values).mapError fun r => .diagnostic r.diagnostic)

/-- Whether a fault of a file is reported as that of a file that cannot be read. -/
def isUnreadable : Fault → Bool
  | .notToml => true
  | .refused _ => true
  | _ => false

/-- Load settings.  Values given as null do not count. -/
def load {σ : Type} (lib : Library) (w : Surroundings) (explicit : Option Path)
    (overrides : Layer) :
    Task σ Settings := do
  let failed (f : Fault) : Task σ Settings := do
    let path := (← namedFile w explicit).getD defaultFile
    Task.refuse (unreadableDiagnostic path f)
  try make lib w (namedFile w explicit) (overrides.filter fun (_, v) => !v.isNull)
  catch e =>
    match e with
    | .fault f => if isUnreadable f then failed f else throw e
    | .diagnostic _ => throw e

/-- Settings from given values; the other sources count here, too. -/
def ofMapping {σ : Type} (lib : Library) (w : Surroundings) (given : Layer) : Task σ Settings := do
  try make lib w (environmentFile w) given
  catch e =>
    match e with
    | .fault f =>
      match lib.asRefusal? given f with
      | some r => Task.refuse r.diagnostic
      | none => throw e
    | .diagnostic _ => throw e

/-- The settings as values. -/
def values (s : Settings) : Layer :=
  [(Key.logDir.text, .text s.logDir), (Key.factsDir.text, .text s.factsDir),
    (Key.proc.text, (s.proc.map Value.text).getD .null), (Key.dumpInfo.text, .bool s.dumpInfo),
    (Key.showVariables.text, .bool s.showVariables), (Key.showIndices.text, .bool s.showIndices),
    (Key.debugInfo.text, .bool s.debugInfo)]

/-- The key under which nothing can be replaced, since it stands for the settings themselves. -/
def selfKey : String := "self"

/-- Settings with some values replaced. -/
def replace {σ : Type} (lib : Library) (w : Surroundings) (s : Settings) (changes : Layer) :
    Task σ Settings :=
  if (Assoc.get? selfKey changes).isSome then Task.abort .wrongShape
  else ofMapping lib w (changes.foldl (fun given (k, v) => Assoc.put k v given) s.values)

end BorrowGraph.Settings
