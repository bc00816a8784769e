/-
The rules that a settings library follows.

The value that counts for a key is that of the first source which sets it (`Library.Counts`).
Merging finds this value for every key, but for one thing: a table may be merged with the
tables below it (`Library.Merges`).  Validation then sees one key at a time, and refuses all
other keys.  `Library.IsLawful` collects these rules and those for files and for values without
reserved keys.

No setting is a table, so merged values are read just as those that count are
(`IsLawful.reads_of_alike`).  Hence the settings that a lawful library makes are told by what
counts, key by key (`IsLawful.validate_eq_ok_iff`), and a value that is hidden by a higher one
plays no part.
-/
import BorrowGraph.Proofs.AnalysisFailures
import BorrowGraph.Settings.Load
import BorrowGraph.Toml

namespace BorrowGraph.Settings

/-- No key begins with an underscore. -/
def IsPlain (given : Layer) : Prop :=
  ∀ x ∈ given, x.1.toList.head? ≠ some '_'

/-! ### Files -/

/-- A path begins in a home directory that is not known. -/
def LacksHome (w : Surroundings) (path : Path) : Prop :=
  ∃ first rest user, path = ⟨"", first :: rest⟩ ∧ first.toList = '~' :: user ∧
    ∀ home, w.homeOf? (String.ofList user) = some home → home.toList.head? = some '~'

/-- A path leads to a file with these bytes. -/
def HasBytes (w : Surroundings) (path : Path) (bytes : List UInt8) : Prop :=
  ∃ place, w.expand path = .ok place ∧ w.files.readBytes place = .ok bytes

/-- A path leads to a file with these characters. -/
def HasText (w : Surroundings) (path : Path) (chars : List Char) : Prop :=
  ∃ bytes, HasBytes w path bytes ∧ Utf8.decode bytes = .ok chars

/-- The values of a file, none if there is no file. -/
inductive FileGives (w : Surroundings) (path : Path) : Layer → Prop where
  | document {chars : List Char} {fields : Layer} (htext : HasText w path chars)
      (hread : Toml.read chars = .ok fields) : FileGives w path fields
  | missing {place : Path} (hexpand : w.expand path = .ok place)
      (hfile : w.files.isFile place = .ok false) : FileGives w path []

/-- A file is refused: it is no settings file, or its path is too long. -/
inductive IsRefused (w : Surroundings) (path : Path) : Fault → Prop where
  | malformed {chars : List Char} (htext : HasText w path chars)
      (hread : Toml.read chars = .error .malformed) : IsRefused w path .notToml
  | longPath {place : Path} (hexpand : w.expand path = .ok place)
      (hlong : w.files.IsTooLong place) :
      IsRefused w path (.refused ⟨.nameTooLong, some place.text, none⟩)

/-- Reading a file breaks off: its home directory is not known, it is no text, or it holds a
number that is too long or values that are nested too deeply. -/
inductive Breaks (w : Surroundings) (path : Path) : Fault → Prop where
  | unknownHome (h : LacksHome w path) : Breaks w path .unknownHome
  | undecodable {bytes : List UInt8} {e : Utf8.Error} (hbytes : HasBytes w path bytes)
      (htext : Utf8.decode bytes = .error e) : Breaks w path (.undecodable e)
  | longNumeral {chars : List Char} {n : Nat} (htext : HasText w path chars)
      (hread : Toml.read chars = .error (.tooLong n)) : Breaks w path (.tooManyDigits n)
  | deepNesting {chars : List Char} (htext : HasText w path chars)
      (hread : Toml.read chars = .error .tooDeep) : Breaks w path .nestedTooDeeply

/-! ### What sources set -/

/-- What settings are made of: the values given, the variables of the environment, and the
sources, the first of which counts most. -/
structure Layers where
  given : Layer
  environment : List (String × String)
  sources : List Source

/-- The names of the keys that a source has.  Of the environment, only variables for keys are
looked at. -/
def Layers.names (l : Layers) : Source → List String
  | .given => l.given.map Prod.fst
  | .environment => []
  | .file fields => fields.map Prod.fst

/-- Values that no setting can tell apart: equal ones, and tables. -/
inductive Alike : Value → Value → Prop where
  | same (v : Value) : Alike v v
  | tables (fields fields' : Layer) : Alike (.table fields) (.table fields')

/-- A setting has its default. -/
def HasDefault (s : Settings) : Key → Prop
  | .logDir => s.logDir = "./log/"
  | .factsDir => s.factsDir = "nll-facts"
  | .proc => s.proc = none
  | .dumpInfo => s.dumpInfo = true
  | .showVariables => s.showVariables = true
  | .showIndices => s.showIndices = true
  | .debugInfo => s.debugInfo = false

namespace Library

variable (lib : Library)

/-- A name spells a key. -/
def Spells (name : String) (k : Key) : Prop :=
  lib.fold name = lib.fold k.text

/-- A name that spells no key. -/
def IsUnknown (name : String) : Prop :=
  ∀ k, ¬ lib.Spells name k

/-- A layer gives a key a value: that of the first of its spellings. -/
def Gives (layer : Layer) (k : Key) (v : Value) : Prop :=
  ∃ before name after, layer = before ++ (name, v) :: after ∧ lib.Spells name k ∧
    ∀ x ∈ before, ¬ lib.Spells x.1 k

/-- A name is that of the variable for a key. -/
def NamesVariable (name : String) (k : Key) : Prop :=
  lib.fold name = lib.fold (variableStart ++ k.text)

/-- The environment gives a key a text: that of the last variable for it that is not empty. -/
def VariableGives (environment : List (String × String)) (k : Key) (s : String) : Prop :=
  ∃ before name after, environment = before ++ (name, s) :: after ∧ lib.NamesVariable name k ∧
    s ≠ "" ∧ ∀ x ∈ after, lib.NamesVariable x.1 k → x.2 = ""

/-- A source sets a key to a value. -/
def Sets (l : Layers) (k : Key) (v : Value) : Source → Prop
  | .given => lib.Gives l.given k v
  | .environment => ∃ s, lib.VariableGives l.environment k s ∧ v = .text s
  | .file fields => lib.Gives fields k v

/-- The value that counts for a key: that of the first source which sets it. -/
def Counts (l : Layers) (k : Key) (v : Value) : Prop :=
  ∃ above source below, l.sources = above ++ source :: below ∧ lib.Sets l k v source ∧
    ∀ x ∈ above, ∀ u, ¬ lib.Sets l k u x

/-- Some source has a key that there is not. -/
def HasUnknown (l : Layers) : Prop :=
  ∃ source ∈ l.sources, ∃ name ∈ l.names source, lib.IsUnknown name

/-- Values are what sources are merged to: for each key the value that counts, and all unknown
keys. -/
structure Merges (l : Layers) (values : Layer) : Prop where
  counting : ∀ k v, lib.Counts l k v → ∃ u, Assoc.get? k.text values = some u ∧ Alike u v
  unset : ∀ k, (∀ v, ¬ lib.Counts l k v) → Assoc.get? k.text values = none
  unknown : ∀ name, (∀ k : Key, name ≠ k.text) → (name ∈ values.map Prod.fst ↔
    lib.IsUnknown name ∧ ∃ source ∈ l.sources, name ∈ l.names source)

/-- A setting is what a value is read as. -/
def Reads (s : Settings) (v : Value) : Key → Prop
  | .logDir => lib.readText v = some s.logDir
  | .factsDir => lib.readText v = some s.factsDir
  | .proc => lib.readOptionalText v = some s.proc
  | .dumpInfo => lib.readBool v = some s.dumpInfo
  | .showVariables => lib.readBool v = some s.showVariables
  | .showIndices => lib.readBool v = some s.showIndices
  | .debugInfo => lib.readBool v = some s.debugInfo

/-- A setting is what an optional value makes of it. -/
def Makes (prepare : Key → Value → Value) (s : Settings) (k : Key) (v : Option Value) : Prop :=
  v.elim (s.HasDefault k) fun w => lib.Reads s (prepare k w) k

/-- The rules that a library follows. -/
structure IsLawful : Prop where
  /-- Nothing stands in place of the sources unless a reserved key asks for it. -/
  start : ∀ w given, IsPlain given → lib.start w given = .ok none
  /-- A file is read where its path leads, and one that is not there has no values. -/
  readFile_ok : ∀ w path fields, lib.readFile w path = .ok fields ↔ FileGives w path fields
  readFile_error : ∀ w path f, lib.readFile w path = .error f ↔ IsRefused w path f ∨ Breaks w path f
  /-- Sources are merged per key, and the first one counts. -/
  combine : ∀ w given sources, IsPlain given → ∃ values, lib.combine w given sources = .ok values ∧
    lib.Merges ⟨given, w.environment, sources⟩ values
  /-- Values are checked one by one, and only keys are allowed. -/
  validate : ∀ prepare values s, lib.validate prepare values = .ok s ↔
    (∀ k : Key, lib.Makes prepare s k (Assoc.get? k.text values)) ∧
    ∀ x ∈ values, ∃ k : Key, x.1 = k.text
  /-- No setting is a table. -/
  table : ∀ s fields k, ¬ lib.Reads s (.table fields) k
  /-- A text that may be missing is missing if it is null. -/
  null : lib.readOptionalText .null = some none

/-! ### Settings from lawful libraries -/

/-- A value can be that of a setting. -/
def IsValid (v : Value) (k : Key) : Prop :=
  ∃ s, lib.Reads s (prepared k v) k

/-- A setting is what the value that counts is read as, or else its default. -/
def Decides (l : Layers) (k : Key) (s : Settings) : Prop :=
  (∀ v, lib.Counts l k v → lib.Reads s (prepared k v) k) ∧
    ((∀ v, ¬ lib.Counts l k v) → s.HasDefault k)

end Library

theorem spells_text (lib : Library) (k : Key) : lib.Spells k.text k := rfl

theorem prepared_table (k : Key) (fields : Layer) : prepared k (.table fields) = .table fields := by
  cases k <;> rfl

namespace Library

variable {lib : Library} {l : Layers} {values : Layer} {s : Settings}

theorem IsLawful.reads_of_alike (h : lib.IsLawful) {u v : Value} (halike : Alike u v) (k : Key) :
    lib.Reads s (prepared k u) k ↔ lib.Reads s (prepared k v) k := by
  cases halike with
  | same => exact Iff.rfl
  | tables fields fields' =>
    rw [prepared_table, prepared_table]
    exact iff_of_false (h.table s fields k) (h.table s fields' k)

/-- What merged values make of a setting is what the value that counts is read as. -/
theorem IsLawful.makes_iff (h : lib.IsLawful) (hmerges : lib.Merges l values) (k : Key) :
    lib.Makes prepared s k (Assoc.get? k.text values) ↔ lib.Decides l k s := by
  rw [Decides]
  by_cases hcounts : ∃ v, lib.Counts l k v
  · obtain ⟨v, hv⟩ := hcounts
    obtain ⟨u, hu, halike⟩ := hmerges.counting k v hv
    rw [hu]
    constructor
    · intro hreads
      refine ⟨fun v' hv' => ?_, fun hnone => absurd hv (hnone v)⟩
      -- All values that count are alike, since they are alike to the merged one.
      obtain ⟨u', hu', halike'⟩ := hmerges.counting k v' hv'
      cases hu.symm.trans hu'
      exact (h.reads_of_alike halike' k).mp hreads
    · intro hdecides
      exact (h.reads_of_alike halike k).mpr (hdecides.1 v hv)
  · rw [not_exists] at hcounts
    rw [hmerges.unset k hcounts]
    exact ⟨fun hdefault => ⟨fun v hv => absurd hv (hcounts v), fun _ => hdefault⟩,
      fun hdecides => hdecides.2 hcounts⟩

theorem Merges.hasUnknown_iff (hmerges : lib.Merges l values) :
    lib.HasUnknown l ↔ ∃ x ∈ values, ∀ k : Key, x.1 ≠ k.text := by
  constructor
  · rintro ⟨source, hsource, name, hname, hunknown⟩
    have hne : ∀ k : Key, name ≠ k.text := by
      rintro k rfl
      exact hunknown k (spells_text lib k)
    have hmem := (hmerges.unknown name hne).mpr ⟨hunknown, source, hsource, hname⟩
    obtain ⟨x, hx, rfl⟩ := List.mem_map.mp hmem
    exact ⟨x, hx, hne⟩
  · rintro ⟨x, hx, hne⟩
    obtain ⟨hunknown, source, hsource, hname⟩ :=
      (hmerges.unknown x.1 hne).mp (List.mem_map_of_mem hx)
    exact ⟨source, hsource, x.1, hname, hunknown⟩

/-- The settings that merged values give are what the values that count are read as, and the
defaults of all other keys. -/
theorem IsLawful.validate_eq_ok_iff (h : lib.IsLawful) (hmerges : lib.Merges l values) :
    lib.validate prepared values = .ok s ↔ ¬ lib.HasUnknown l ∧ ∀ k, lib.Decides l k s := by
  rw [h.validate, hmerges.hasUnknown_iff, and_comm]
  refine and_congr ?_ (forall_congr' fun k => h.makes_iff hmerges k)
  simp only [not_exists, not_and, not_forall, ne_eq, not_not]

/-- Settings can be put together key by key. -/
theorem exists_decides (h : ∀ k, ∃ s, lib.Decides l k s) : ∃ s, ∀ k, lib.Decides l k s := by
  choose f hf using h
  refine ⟨⟨(f .logDir).logDir, (f .factsDir).factsDir, (f .proc).proc, (f .dumpInfo).dumpInfo,
    (f .showVariables).showVariables, (f .showIndices).showIndices, (f .debugInfo).debugInfo⟩,
    fun k => ?_⟩
  have hk := hf k
  cases k <;> exact hk

/-- Merged values give settings exactly if there is no unknown key and all the values that
count are valid. -/
theorem IsLawful.exists_validate_eq_ok_iff (h : lib.IsLawful) (hmerges : lib.Merges l values) :
    (∃ s, lib.validate prepared values = .ok s) ↔
      ¬ lib.HasUnknown l ∧ ∀ k v, lib.Counts l k v → lib.IsValid v k := by
  simp only [h.validate_eq_ok_iff hmerges]
  constructor
  · rintro ⟨s, hunknown, hs⟩
    exact ⟨hunknown, fun k v hv => ⟨s, (hs k).1 v hv⟩⟩
  · rintro ⟨hunknown, hvalid⟩
    have hkey : ∀ k, ∃ s, lib.Decides l k s := by
      intro k
      by_cases hcounts : ∃ v, lib.Counts l k v
      · obtain ⟨v, hv⟩ := hcounts
        obtain ⟨s, hs⟩ := hvalid k v hv
        obtain ⟨u, hu, halike⟩ := hmerges.counting k v hv
        refine ⟨s, (h.makes_iff hmerges k).mp ?_⟩
        rw [hu]
        exact (h.reads_of_alike halike k).mpr hs
      · refine ⟨{}, fun v hv => absurd ⟨v, hv⟩ hcounts, fun _ => ?_⟩
        cases k <;> rfl
    obtain ⟨s, hs⟩ := exists_decides hkey
    exact ⟨s, hunknown, hs⟩

/-- Merged values are refused exactly if there is an unknown key, or a value that counts and is
not valid. -/
theorem IsLawful.exists_validate_eq_error_iff (h : lib.IsLawful) (hmerges : lib.Merges l values) :
    (∃ r, lib.validate prepared values = .error r) ↔
      lib.HasUnknown l ∨ ∃ k v, lib.Counts l k v ∧ ¬ lib.IsValid v k := by
  have hnot : (∃ r, lib.validate prepared values = .error r) ↔
      ¬ ∃ s, lib.validate prepared values = .ok s := by
    cases lib.validate prepared values with
    | error r => simp
    | ok s => simp
  rw [hnot, h.exists_validate_eq_ok_iff hmerges]
  simp only [not_and_or, not_not, not_forall, exists_prop]

end Library
end BorrowGraph.Settings
