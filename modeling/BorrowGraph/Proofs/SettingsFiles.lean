/-
Settings from values, variables and files.

Loading reads the named file and the default file, puts the values given and the variables of
the environment above them, and lets a library make settings of all these sources
(`HasLayers`).  If the library is lawful, what loading yields is `loaded` (`load_yields`): the
settings that the merged sources give, or what a file that could not be read stands for.  So
settings are loaded exactly if all files that are there can be read, no source has an unknown
key, and the value that counts for each key is valid (`exists_loaded_iff`).

A path may begin in a home directory.  It is expanded when the file is read, but not when a
variable that names a file is looked at, so that the file such a variable leads to need not be
the one that is read.
-/
import BorrowGraph.Proofs.SettingsStandard

namespace BorrowGraph

theorem FileTree.stat_of_long_name {t : FileTree} {root name : String}
    (h : nameLimit < name.utf8ByteSize) :
    t.stat ⟨root, [name]⟩ = .error .nameTooLong := by
  have hdots : name ≠ ".." := by
    rintro rfl
    exact absurd h (by decide)
  have hlocate : t.locate ⟨root, [name]⟩ = .error .nameTooLong := by
    rw [locate]
    split
    · rfl
    · have hstart : t.node? (startOf ⟨root, [name]⟩) = some .directory := by
        rw [startOf]
        split <;> rfl
      simp only [walk, hstart, hdots, if_false, h, if_true]
  rw [stat, hlocate]
  rfl

namespace Settings

/-! ### Sources -/

/-- The file that is named, if there is one: the one given, or else the one that a variable of
the environment names, unless the path is empty or does not lead to a file. -/
inductive Names (w : Surroundings) : Option Path → Option Path → Prop where
  | given (path : Path) : Names w (some path) (some path)
  | variable {text : String} (hset : w.lookup? fileVariable = some text) (hne : text ≠ "")
      (hfile : w.files.isFile (Path.ofText text) = .ok true) :
      Names w none (some (Path.ofText text))
  | missing {text : String} (hset : w.lookup? fileVariable = some text) (hne : text ≠ "")
      (hfile : w.files.isFile (Path.ofText text) = .ok false) : Names w none none
  | unset (h : ∀ text, w.lookup? fileVariable = some text → text = "") : Names w none none

/-- The sources of which settings are loaded, the first of which counts most. -/
inductive HasSources (w : Surroundings) (explicit : Option Path) : List Source → Prop where
  | named {path : Path} {fields lowest : Layer} (hnames : Names w explicit (some path))
      (hfile : FileGives w path fields) (hlowest : FileGives w defaultFile lowest) :
      HasSources w explicit [.given, .environment, .file fields, .file lowest]
  | unnamed {lowest : Layer} (hnames : Names w explicit none)
      (hlowest : FileGives w defaultFile lowest) :
      HasSources w explicit [.given, .environment, .file lowest]

/-- The layers of which settings are loaded. -/
structure HasLayers (w : Surroundings) (explicit : Option Path) (overrides : Layer) (l : Layers) :
    Prop where
  given : l.given = overrides.filter fun x => !x.2.isNull
  environment : l.environment = w.environment
  sources : HasSources w explicit l.sources

/-- Find the file that is named. -/
def namedPath (w : Surroundings) : Option Path → Except Fault (Option Path)
  | some path => .ok (some path)
  | none =>
    match w.lookup? fileVariable with
    | none => .ok none
    | some text =>
      if text.isEmpty then .ok none
      else do return if ← w.files.isFile (Path.ofText text) then some (Path.ofText text) else none

/-- Find and read all sources. -/
def sourceList (lib : Library) (w : Surroundings) (explicit : Option Path) :
    Except Fault (List Source) := do
  let upper ← namedSource lib w (← namedPath w explicit)
  let lowest ← lib.readFile w defaultFile
  return [.given, .environment] ++ upper ++ [.file lowest]

section Sources

variable {w : Surroundings} {explicit : Option Path} {lib : Library} {σ : Type}

theorem namedPath_of_unset (h : ∀ text, w.lookup? fileVariable = some text → text = "") :
    namedPath w none = .ok none := by
  rw [namedPath]
  rcases hset : w.lookup? fileVariable with _ | text
  · rfl
  · rw [h text hset]
    rfl

theorem namedPath_of_set {text : String} (hset : w.lookup? fileVariable = some text)
    (hne : text ≠ "") :
    namedPath w none = (w.files.isFile (Path.ofText text) >>= fun isFile =>
      .ok (if isFile then some (Path.ofText text) else none)) := by
  simp only [namedPath, hset, String.isEmpty_iff, hne, if_false]
  rfl

/-- A variable is unset or empty, or it holds a path. -/
theorem variable_cases (w : Surroundings) :
    (∀ text, w.lookup? fileVariable = some text → text = "") ∨
      ∃ text, w.lookup? fileVariable = some text ∧ text ≠ "" := by
  by_cases h : ∃ text, w.lookup? fileVariable = some text ∧ text ≠ ""
  · exact .inr h
  · left
    intro text hset
    by_contra hne
    exact h ⟨text, hset, hne⟩

theorem namedPath_eq_ok {explicit file : Option Path} :
    namedPath w explicit = .ok file ↔ Names w explicit file := by
  constructor
  · intro h
    cases explicit with
    | some path =>
      cases h
      exact .given path
    | none =>
      rcases variable_cases w with hunset | ⟨text, hset, hne⟩
      · rw [namedPath_of_unset hunset] at h
        cases h
        exact .unset hunset
      · rw [namedPath_of_set hset hne] at h
        obtain ⟨isFile, hfile, h⟩ := bind_eq_ok.mp h
        cases isFile with
        | false =>
          cases h
          exact .missing hset hne hfile
        | true =>
          cases h
          exact .variable hset hne hfile
  · rintro (path | ⟨hset, hne, hfile⟩ | ⟨hset, hne, hfile⟩ | hunset)
    · rfl
    · exact (namedPath_of_set hset hne).trans (bind_eq_ok.mpr ⟨true, hfile, rfl⟩)
    · exact (namedPath_of_set hset hne).trans (bind_eq_ok.mpr ⟨false, hfile, rfl⟩)
    · exact namedPath_of_unset hunset

theorem namedFile_yields {σ : Type} (w : Surroundings) (explicit : Option Path) (st : σ) :
    (namedFile w explicit).Yields st ((namedPath w explicit).mapError .fault) st := by
  cases explicit with
  | some path => exact Task.yields_pure st _
  | none =>
    show (environmentFile w).Yields _ _ _
    rw [environmentFile, namedPath]
    rcases w.lookup? fileVariable with _ | text
    · exact Task.yields_pure st _
    · simp only
      split
      · exact Task.yields_pure st _
      · rcases w.files.isFile (Path.ofText text) with f | _ | _
        · exact (Task.yields_ofExcept st _).bind_error
        · refine (Task.yields_ofExcept st _).bind ?_
          exact (Task.yields_note st _).bind (Task.yields_pure st _)
        · exact (Task.yields_ofExcept st _).bind (Task.yields_pure st _)

theorem namedSource_of_fileGives (h : lib.IsLawful) {path : Path} {fields : Layer}
    (hfile : FileGives w path fields) : namedSource lib w (some path) = .ok [.file fields] :=
  bind_eq_ok.mpr ⟨fields, (h.readFile_ok _ _ _).mpr hfile, rfl⟩

theorem sourceList_eq_ok (h : lib.IsLawful) {sources : List Source} :
    sourceList lib w explicit = .ok sources ↔ HasSources w explicit sources := by
  constructor
  · intro hsources
    obtain ⟨file, hfile, hsources⟩ := bind_eq_ok.mp hsources
    obtain ⟨upper, hupper, hsources⟩ := bind_eq_ok.mp hsources
    obtain ⟨lowest, hlowest, hsources⟩ := bind_eq_ok.mp hsources
    have hnames := namedPath_eq_ok.mp hfile
    have hlowest := (h.readFile_ok _ _ _).mp hlowest
    cases hsources
    cases file with
    | none =>
      cases hupper
      exact .unnamed hnames hlowest
    | some path =>
      obtain ⟨fields, hfields, hupper⟩ := bind_eq_ok.mp hupper
      cases hupper
      exact .named hnames ((h.readFile_ok _ _ _).mp hfields) hlowest
  · rintro (⟨hnames, hfile, hlowest⟩ | ⟨hnames, hlowest⟩)
    · have hupper := namedSource_of_fileGives h hfile
      exact bind_eq_ok.mpr ⟨_, namedPath_eq_ok.mpr hnames, bind_eq_ok.mpr ⟨_, hupper,
        bind_eq_ok.mpr ⟨_, (h.readFile_ok _ _ _).mpr hlowest, rfl⟩⟩⟩
    · exact bind_eq_ok.mpr ⟨_, namedPath_eq_ok.mpr hnames, bind_eq_ok.mpr ⟨[], rfl,
        bind_eq_ok.mpr ⟨_, (h.readFile_ok _ _ _).mpr hlowest, rfl⟩⟩⟩

theorem sourcesBelow_yields (lib : Library) (w : Surroundings) (explicit : Option Path) (st : σ) :
    (sourcesBelow lib w (namedFile w explicit)).Yields st
      ((sourceList lib w explicit).mapError .fault) st := by
  rw [sourcesBelow, sourceList]
  have hnamed := namedFile_yields w explicit st
  generalize namedPath w explicit = found at hnamed ⊢
  rcases found with f | file
  · exact hnamed.bind_error
  refine hnamed.bind ?_
  rw [ok_bind]
  rcases namedSource lib w file with f | upper
  · exact (Task.yields_ofExcept st _).bind_error
  refine (Task.yields_ofExcept st _).bind ?_
  rw [ok_bind]
  rcases lib.readFile w defaultFile with f | lowest
  · exact (Task.yields_ofExcept st _).bind_error
  · exact (Task.yields_ofExcept st _).bind (Task.yields_pure st _)

end Sources

/-! ### Loading -/

/-- The settings that sources make, or what is wrong with them. -/
def madeOf (lib : Library) (w : Surroundings) (given : Layer) (sources : List Source) :
    Except Failure Settings := do
  let values ← (lib.combine w given sources).mapError Problem.failure
  (lib.validate prepared values).mapError fun r => .diagnostic r.diagnostic

/-- What a file that could not be read stands for. -/
def readFailure (w : Surroundings) (explicit : Option Path) (f : Fault) : Failure :=
  if isUnreadable f then
    match namedPath w explicit with
    | .ok file => .diagnostic (unreadableDiagnostic (file.getD defaultFile) f)
    | .error f' => .fault f'
  else .fault f

/-- The outcome of loading settings. -/
def loaded (lib : Library) (w : Surroundings) (explicit : Option Path) (overrides : Layer) :
    Except Failure Settings :=
  match sourceList lib w explicit with
  | .ok sources => madeOf lib w (overrides.filter fun x => !x.2.isNull) sources
  | .error f => .error (readFailure w explicit f)

theorem isPlain_nil : IsPlain [] := by
  rintro x ⟨⟩

theorem IsPlain.filter {given : Layer} (h : IsPlain given) (p : String × Value → Bool) :
    IsPlain (given.filter p) :=
  fun x hx => h x (List.mem_filter.mp hx).1

section Loading

variable {w : Surroundings} {explicit : Option Path} {given overrides : Layer} {lib : Library}
  {σ : Type}

/-- Of plain values, a lawful library makes settings or reports what is wrong. -/
theorem Library.IsLawful.madeOf_eq (h : lib.IsLawful) (hgiven : IsPlain given) (w : Surroundings)
    (sources : List Source) :
    ∃ values, lib.combine w given sources = .ok values ∧
      lib.Merges ⟨given, w.environment, sources⟩ values ∧
      madeOf lib w given sources =
        (lib.validate prepared values).mapError fun r => .diagnostic r.diagnostic := by
  obtain ⟨values, hvalues, hmerges⟩ := h.combine w given sources hgiven
  refine ⟨values, hvalues, hmerges, ?_⟩
  rw [madeOf, hvalues]
  rfl

theorem make_yields (h : lib.IsLawful) (w : Surroundings) (explicit : Option Path)
    (hgiven : IsPlain given) (st : σ) :
    (make lib w (namedFile w explicit) given).Yields st
      ((sourceList lib w explicit).mapError .fault >>= madeOf lib w given) st := by
  rw [make, h.start w given hgiven]
  refine (Task.yields_ofExcept st _).bind ?_
  rw [mergedValues]
  have hsources := sourcesBelow_yields lib w explicit st
  generalize sourceList lib w explicit = found at hsources ⊢
  rcases found with f | sources
  · exact hsources.bind_error.bind_error
  · obtain ⟨values, hvalues, -, hmade⟩ := h.madeOf_eq hgiven w sources
    have hcombine : Task.Yields (sourcesBelow lib w (namedFile w explicit) >>= fun sources =>
        Task.ofExcept ((lib.combine w given sources).mapError Problem.failure))
        st (.ok values) st :=
      hsources.bind (by rw [hvalues]; exact Task.yields_pure st values)
    show Task.Yields _ st (madeOf lib w given sources) st
    rw [hmade]
    exact hcombine.bind (Task.yields_ofExcept st _)

theorem load_yields (h : lib.IsLawful) (w : Surroundings) (explicit : Option Path)
    (hoverrides : IsPlain overrides) (st : σ) :
    (load lib w explicit overrides).Yields st (loaded lib w explicit overrides) st := by
  have hgiven : IsPlain (overrides.filter fun x => !x.2.isNull) := hoverrides.filter _
  have hmake := make_yields h w explicit hgiven st
  rw [load, loaded]
  generalize sourceList lib w explicit = found at hmake ⊢
  rcases found with f | sources
  · show Task.Yields _ st (.error (readFailure w explicit f)) st
    refine Task.Yields.tryCatch_error hmake ?_
    have hnamed := namedFile_yields w explicit st
    rw [readFailure]
    cases hf : isUnreadable f with
    | false =>
      simp only [hf]
      exact Task.yields_throw st _
    | true =>
      simp only [hf, if_true]
      generalize namedPath w explicit = found at hnamed ⊢
      rcases found with f' | file
      · exact hnamed.bind_error
      · exact hnamed.bind (Task.yields_throw st _)
  · obtain ⟨values, -, -, hmade⟩ := h.madeOf_eq hgiven w sources
    have hmade' : Task.Yields _ st (madeOf lib w _ sources) st := hmake
    show Task.Yields _ st (madeOf lib w _ sources) st
    rw [hmade] at hmade' ⊢
    generalize lib.validate prepared values = r at hmade' ⊢
    rcases r with r | s
    · exact Task.Yields.tryCatch_error hmade' (Task.yields_throw st _)
    · exact Task.Yields.tryCatch_ok hmade' _

/-- With its sources, loading gives the settings that a library makes of them. -/
theorem loaded_of_hasLayers (h : lib.IsLawful) {l : Layers}
    (hlayers : HasLayers w explicit overrides l)
    (hoverrides : IsPlain overrides) :
    ∃ values, lib.Merges l values ∧ loaded lib w explicit overrides =
      (lib.validate prepared values).mapError fun r => .diagnostic r.diagnostic := by
  obtain ⟨given, environment, sources⟩ := l
  obtain ⟨rfl, rfl, hsources⟩ := hlayers
  obtain ⟨values, -, hmerges, hmade⟩ := h.madeOf_eq (hoverrides.filter _) w sources
  refine ⟨values, hmerges, ?_⟩
  rw [loaded, (sourceList_eq_ok h).mpr hsources, ← hmade]

/-- Without its sources, loading fails. -/
theorem hasLayers_of_loaded (h : lib.IsLawful) {s : Settings}
    (hs : loaded lib w explicit overrides = .ok s) : ∃ l, HasLayers w explicit overrides l := by
  rcases hsources : sourceList lib w explicit with f | sources
  · rw [loaded, hsources] at hs
    cases hs
  · exact ⟨⟨_, w.environment, sources⟩, rfl, rfl, (sourceList_eq_ok h).mp hsources⟩

theorem loaded_eq_ok_iff (h : lib.IsLawful) {l : Layers}
    (hlayers : HasLayers w explicit overrides l)
    (hoverrides : IsPlain overrides) {s : Settings} :
    loaded lib w explicit overrides = .ok s ↔ ¬ lib.HasUnknown l ∧ ∀ k, lib.Decides l k s := by
  obtain ⟨values, hmerges, hloaded⟩ := loaded_of_hasLayers h hlayers hoverrides
  rw [hloaded, mapError_eq_ok, h.validate_eq_ok_iff hmerges]

theorem exists_loaded_iff (h : lib.IsLawful) {l : Layers}
    (hlayers : HasLayers w explicit overrides l)
    (hoverrides : IsPlain overrides) :
    (∃ s, loaded lib w explicit overrides = .ok s) ↔
      ¬ lib.HasUnknown l ∧ ∀ k v, lib.Counts l k v → lib.IsValid v k := by
  obtain ⟨values, hmerges, hloaded⟩ := loaded_of_hasLayers h hlayers hoverrides
  rw [← h.exists_validate_eq_ok_iff hmerges]
  simp only [hloaded, mapError_eq_ok]

end Loading

/-- **Settings are loaded source by source.**  If all files that are there can be read,
settings are loaded exactly if no source has an unknown key and the value that counts for each
key is valid.  Each setting is then what the value that counts is read as, and its default if
there is none; an empty name of a function counts, and is none. -/
theorem load_decided_by_layers {σ : Type} (lib : Library) (hlib : lib.IsLawful) (w : Surroundings)
    (explicit : Option Path) (overrides : Layer) (h : IsPlain overrides) (st : σ) :
    ∃ r, (load lib w explicit overrides).Yields st r st ∧
      (∀ l, HasLayers w explicit overrides l →
        ((∃ s, r = .ok s) ↔ ¬ lib.HasUnknown l ∧ ∀ k v, lib.Counts l k v → lib.IsValid v k)) ∧
      ∀ s, r = .ok s → ∃ l, HasLayers w explicit overrides l ∧ (∀ k, lib.Decides l k s) ∧
        (lib.Counts l .proc (.text "") → s.proc = none) := by
  refine ⟨loaded lib w explicit overrides, load_yields hlib w explicit h st,
    fun l hl => exists_loaded_iff hlib hl h, ?_⟩
  intro s hs
  obtain ⟨l, hlayers⟩ := hasLayers_of_loaded hlib hs
  obtain ⟨-, hdecides⟩ := (loaded_eq_ok_iff hlib hlayers h).mp hs
  refine ⟨l, hlayers, hdecides, fun hempty => ?_⟩
  have hproc : lib.readOptionalText .null = some s.proc := (hdecides .proc).1 _ hempty
  exact (Option.some.inj (hlib.null.symm.trans hproc)).symm

/-- Surroundings with two settings files, of which the upper one holds a number in place of a
directory. -/
def twoFiles : Surroundings where
  files := ⟨[(⟨.working, ["mir_dump.toml"]⟩,
      .file (Utf8.encode "dump_mir_proc = 'low'\nlog_dir = 'logs'")),
    (⟨.working, ["c.toml"]⟩, .file (Utf8.encode "facts_dir = 1"))]⟩
  environment := [("MIR_DUMP_FACTS_DIR", "facts"), ("MIR_DUMP_LOG_DIR", "")]

/-- What hides the number is what counts, an empty procedure is none, and an empty variable
sets nothing. -/
theorem twoFiles_decided :
    Library.standard.IsLawful ∧ IsPlain [("LOG_DIR", .null), ("dump_mir_proc", .text "")] ∧
      ∃ l, HasLayers twoFiles (some (Path.ofText "c.toml"))
          [("LOG_DIR", .null), ("dump_mir_proc", .text "")] l ∧
        (∀ k, Library.standard.Decides l k { logDir := "logs", factsDir := "facts" }) := by
  have hplain : IsPlain [("LOG_DIR", .null), ("dump_mir_proc", .text "")] := by
    rw [IsPlain]
    simp
  have hloaded : loaded .standard twoFiles (some (Path.ofText "c.toml"))
      [("LOG_DIR", .null), ("dump_mir_proc", .text "")] =
      .ok { logDir := "logs", factsDir := "facts" } := by
    decide +kernel
  obtain ⟨r, hr, -, hdecides⟩ := load_decided_by_layers .standard standard_isLawful twoFiles
    (some (Path.ofText "c.toml")) _ hplain ()
  obtain ⟨l, hlayers, hl, -⟩ :=
    hdecides _ ((hr.unique (load_yields standard_isLawful _ _ hplain ())).trans hloaded)
  exact ⟨standard_isLawful, hplain, l, hlayers, hl⟩

/-- Surroundings in which the path that a variable holds leads to a file, but not once it is
expanded. -/
def fileInTildeDirectory : Surroundings where
  files := ⟨[(⟨.working, ["~"]⟩, .directory),
    (⟨.working, ["~", "c.toml"]⟩, .file (Utf8.encode "log_dir = 'here'"))]⟩
  environment := [("HOME", "home"), ("MIR_DUMP_CONFIG", "~/c.toml")]

/-- Surroundings without files and variables. -/
def emptySurroundings : Surroundings where
  files := .empty
  environment := []

/-- A path with one long name. -/
def longPath (n : Nat) : Path := ⟨"/", [String.ofList (List.replicate n 'a')]⟩

theorem isTooLong_longPath (t : FileTree) : t.IsTooLong (longPath 256) := by
  have hnull : (String.ofList (List.replicate 256 'a')).toList.contains (Char.ofNat 0) = false := by
    rw [String.toList_ofList, List.contains_replicate]
    rfl
  refine ⟨?_, FileTree.stat_of_long_name (by decide +kernel)⟩
  rw [longPath, Path.hasNull, List.any_cons, hnull]
  rfl

/-- The file that a variable leads to may not count at all, and a path at which there is no
file may be refused. -/
theorem named_file_not_read :
    (fileInTildeDirectory.files.readBytes (Path.ofText "~/c.toml") =
        .ok (Utf8.encode "log_dir = 'here'") ∧
      (load .standard fileInTildeDirectory none []).Yields () (.ok {}) ()) ∧
    ∃ d, d.code = .invalidConfigFile ∧
      (load .standard emptySurroundings (some (longPath 256)) []).Yields
        () (.error (.diagnostic d)) () := by
  have htilde : loaded .standard fileInTildeDirectory none [] = .ok {} := by decide +kernel
  have hfields : Standard.readFile emptySurroundings (longPath 256) =
      .error (.refused ⟨.nameTooLong, some (longPath 256).text, none⟩) :=
    Standard.readFile_eq_error.mpr (.inl (.longPath rfl (isTooLong_longPath _)))
  have hlong : loaded .standard emptySurroundings (some (longPath 256)) [] = .error (.diagnostic
      (unreadableDiagnostic (longPath 256)
        (.refused ⟨.nameTooLong, some (longPath 256).text, none⟩))) := by
    have hsources : sourceList .standard emptySurroundings (some (longPath 256)) =
        .error (.refused ⟨.nameTooLong, some (longPath 256).text, none⟩) :=
      bind_eq_error.mpr (.inr ⟨_, rfl, bind_eq_error.mpr (.inl (bind_eq_error.mpr (.inl hfields)))⟩)
    rw [loaded, hsources]
    rfl
  refine ⟨⟨by decide +kernel, htilde ▸ load_yields standard_isLawful _ _ isPlain_nil ()⟩, ?_⟩
  exact ⟨_, rfl, hlong ▸ load_yields standard_isLawful _ _ isPlain_nil ()⟩

end Settings
end BorrowGraph
