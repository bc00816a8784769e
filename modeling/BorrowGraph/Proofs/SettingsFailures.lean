/-
How the loading of settings fails.

A file that is read may be refused (`IsRefused`), and then a diagnostic says so; or reading it
may break off with a fault that no diagnostic wraps (`Breaks`).  Besides, the path that a
variable holds may be too long to be looked up.  That is refused as well, but the diagnostic
would have to name the file, so that the path is looked up once more and the second refusal
escapes.  Everything else that can go wrong is found in the merged values and reported.  With a
lawful library, loading fails exactly in these ways (`load_failures`).
-/
import BorrowGraph.Proofs.BundleContainment
import BorrowGraph.Proofs.SettingsFiles
import BorrowGraph.Proofs.TomlErrors

namespace BorrowGraph.Settings

/-! ### Files that cannot be read -/

/-- The files that are read: the named one, and then the default one. -/
inductive Reads (w : Surroundings) (explicit : Option Path) : Path → Prop where
  | named {path : Path} (h : Names w explicit (some path)) : Reads w explicit path
  | lowest {file : Option Path} (h : Names w explicit file)
      (hread : ∀ path, file = some path → ∃ fields, FileGives w path fields) :
        Reads w explicit defaultFile

/-- No file is given, and the path that a variable holds is too long. -/
structure LongVariable (w : Surroundings) (explicit : Option Path) (path : Path) : Prop where
  explicit : explicit = none
  set : ∃ text, w.lookup? fileVariable = some text ∧ text ≠ "" ∧ path = Path.ofText text
  long : w.files.IsTooLong path

section Files

variable {lib : Library} {w : Surroundings} {explicit : Option Path} {path : Path} {f : Fault}

theorem IsRefused.isUnreadable (h : IsRefused w path f) : isUnreadable f = true := by
  cases h <;> rfl

theorem Breaks.isUnreadable (h : Breaks w path f) : isUnreadable f = false := by
  cases h <;> rfl

theorem namedPath_eq_error : namedPath w explicit = .error f ↔
    ∃ path, LongVariable w explicit path ∧ f = .refused ⟨.nameTooLong, some path.text, none⟩ := by
  constructor
  · intro h
    cases explicit with
    | some path => cases h
    | none =>
      rcases variable_cases w with hunset | ⟨text, hset, hne⟩
      · rw [namedPath_of_unset hunset] at h
        cases h
      · rw [namedPath_of_set hset hne] at h
        rcases bind_eq_error.mp h with hfile | ⟨isFile, -, hfile⟩
        · obtain ⟨hlong, rfl⟩ := FileTree.ask_eq_error.mp hfile
          exact ⟨_, ⟨rfl, ⟨text, hset, hne, rfl⟩, hlong⟩, rfl⟩
        · cases hfile
  · rintro ⟨path, ⟨rfl, ⟨text, hset, hne, rfl⟩, hlong⟩, rfl⟩
    rw [namedPath_of_set hset hne]
    exact bind_eq_error.mpr (.inl (FileTree.ask_eq_error.mpr ⟨hlong, rfl⟩))

theorem sourceList_eq_error (h : lib.IsLawful) : sourceList lib w explicit = .error f ↔
    namedPath w explicit = .error f ∨
      ∃ path, Reads w explicit path ∧ (IsRefused w path f ∨ Breaks w path f) := by
  simp only [← h.readFile_error]
  constructor
  · intro hsources
    rcases bind_eq_error.mp hsources with hpath | ⟨file, hfile, hsources⟩
    · exact .inl hpath
    have hnames := namedPath_eq_ok.mp hfile
    rcases bind_eq_error.mp hsources with hnamed | ⟨upper, hupper, hsources⟩
    · cases file with
      | none => cases hnamed
      | some path =>
        rcases bind_eq_error.mp hnamed with hnamed | ⟨fields, -, hnamed⟩
        · exact .inr ⟨path, .named hnames, hnamed⟩
        · cases hnamed
    rcases bind_eq_error.mp hsources with hlowest | ⟨lowest, -, hsources⟩
    · refine .inr ⟨defaultFile, .lowest hnames fun path hpath => ?_, hlowest⟩
      subst hpath
      obtain ⟨fields, hfields, -⟩ := bind_eq_ok.mp hupper
      exact ⟨fields, (h.readFile_ok _ _ _).mp hfields⟩
    · cases hsources
  · rintro (hpath | ⟨path, ⟨hnames⟩ | ⟨hnames, hread⟩, hfields⟩)
    · exact bind_eq_error.mpr (.inl hpath)
    · exact bind_eq_error.mpr (.inr ⟨_, namedPath_eq_ok.mpr hnames,
        bind_eq_error.mpr (.inl (bind_eq_error.mpr (.inl hfields)))⟩)
    · rename_i file
      obtain ⟨upper, hupper⟩ : ∃ upper, namedSource lib w file = .ok upper := by
        cases file with
        | none => exact ⟨[], rfl⟩
        | some path =>
          obtain ⟨fields, hfields⟩ := hread path rfl
          exact ⟨_, namedSource_of_fileGives h hfields⟩
      refine bind_eq_error.mpr (.inr ⟨file, namedPath_eq_ok.mpr hnames, ?_⟩)
      exact bind_eq_error.mpr (.inr ⟨upper, hupper, bind_eq_error.mpr (.inl hfields)⟩)

/-- When a file is read it is known which one is named. -/
theorem Reads.exists_namedPath (h : Reads w explicit path) :
    ∃ file, namedPath w explicit = .ok file := by
  cases h with
  | named hnames => exact ⟨_, namedPath_eq_ok.mpr hnames⟩
  | lowest hnames => exact ⟨_, namedPath_eq_ok.mpr hnames⟩

end Files

/-! ### Loading -/

/-- The diagnostic is about a value. -/
def IsAboutValue (d : Diagnostic) : Prop :=
  d.kind = .configuration ∧ d.code = .invalidConfigValue

theorem isAboutValue_diagnostic (r : Refusal) : IsAboutValue r.diagnostic := by
  cases r <;> exact ⟨rfl, rfl⟩

/-- The ways in which the loading of settings fails. -/
inductive Fails (lib : Library) (w : Surroundings) (explicit : Option Path) (overrides : Layer) :
    Failure → Prop where
  | breaks {path : Path} {f : Fault} (hreads : Reads w explicit path) (h : Breaks w path f) :
      Fails lib w explicit overrides (.fault f)
  | variable {path : Path} (h : LongVariable w explicit path) :
      Fails lib w explicit overrides (.fault (.refused ⟨.nameTooLong, some path.text, none⟩))
  | refused {file : Option Path} {path : Path} {f : Fault} (hnames : Names w explicit file)
      (hreads : Reads w explicit path) (h : IsRefused w path f) :
      Fails lib w explicit overrides
        (.diagnostic (unreadableDiagnostic (file.getD defaultFile) f))
  | value {l : Layers} {values : Layer} {r : Refusal} (hlayers : HasLayers w explicit overrides l)
      (hvalues : lib.combine w l.given l.sources = .ok values)
      (h : lib.validate prepared values = .error r) :
      Fails lib w explicit overrides (.diagnostic r.diagnostic)

section Loading

variable {lib : Library} {w : Surroundings} {explicit : Option Path} {overrides : Layer}
  {e : Failure}

theorem loaded_of_sourceList {f : Fault} (h : sourceList lib w explicit = .error f) :
    loaded lib w explicit overrides = .error (readFailure w explicit f) := by
  rw [loaded, h]

theorem loaded_eq_error (hlib : lib.IsLawful) (hoverrides : IsPlain overrides) :
    loaded lib w explicit overrides = .error e ↔ Fails lib w explicit overrides e := by
  constructor
  · intro h
    rcases hsources : sourceList lib w explicit with f | sources
    · rw [loaded_of_sourceList hsources, readFailure] at h
      cases h
      rcases (sourceList_eq_error hlib).mp hsources with hpath | ⟨path, hreads, hrefused | hbreaks⟩
      · obtain ⟨path, hlong, rfl⟩ := namedPath_eq_error.mp hpath
        simp only [isUnreadable, if_true, hpath]
        exact .variable hlong
      · obtain ⟨file, hfile⟩ := hreads.exists_namedPath
        simp only [hrefused.isUnreadable, if_true, hfile]
        exact .refused (namedPath_eq_ok.mp hfile) hreads hrefused
      · simp only [hbreaks.isUnreadable]
        exact .breaks hreads hbreaks
    · obtain ⟨values, hvalues, -, hmade⟩ := hlib.madeOf_eq (hoverrides.filter _) w sources
      rw [loaded, hsources] at h
      obtain ⟨r, hr, rfl⟩ := mapError_eq_error.mp (hmade.symm.trans h)
      exact .value (l := ⟨_, w.environment, sources⟩)
        ⟨rfl, rfl, (sourceList_eq_ok hlib).mp hsources⟩ hvalues hr
  · rintro (⟨hreads, h⟩ | h | ⟨hnames, hreads, h⟩ | ⟨hlayers, hvalues, h⟩)
    · rw [loaded_of_sourceList ((sourceList_eq_error hlib).mpr (.inr ⟨_, hreads, .inr h⟩)),
        readFailure, h.isUnreadable]
      rfl
    · have hpath := namedPath_eq_error.mpr ⟨_, h, rfl⟩
      rw [loaded_of_sourceList ((sourceList_eq_error hlib).mpr (.inl hpath)), readFailure, hpath]
      rfl
    · rw [loaded_of_sourceList ((sourceList_eq_error hlib).mpr (.inr ⟨_, hreads, .inl h⟩)),
        readFailure, h.isUnreadable, namedPath_eq_ok.mpr hnames]
      rfl
    · rw [loaded, (sourceList_eq_ok hlib).mpr hlayers.sources, ← hlayers.given]
      show madeOf lib w _ _ = _
      rw [madeOf, hvalues]
      exact mapError_eq_error.mpr ⟨_, h, rfl⟩

/-- With all files read, the diagnostic of a value is due to an unknown key or to a value that
counts. -/
theorem exists_refusal_iff (hlib : lib.IsLawful) (hoverrides : IsPlain overrides) {l : Layers}
    (hlayers : HasLayers w explicit overrides l) :
    (∃ r : Refusal, loaded lib w explicit overrides = .error (.diagnostic r.diagnostic)) ↔
      lib.HasUnknown l ∨ ∃ k v, lib.Counts l k v ∧ ¬ lib.IsValid v k := by
  obtain ⟨values, hmerges, hloaded⟩ := loaded_of_hasLayers hlib hlayers hoverrides
  rw [← hlib.exists_validate_eq_error_iff hmerges, hloaded]
  constructor
  · rintro ⟨r, hr⟩
    obtain ⟨r', hr', -⟩ := mapError_eq_error.mp hr
    exact ⟨r', hr'⟩
  · rintro ⟨r, hr⟩
    exact ⟨r, mapError_eq_error.mpr ⟨r, hr, rfl⟩⟩

end Loading

/-- **Settings are loaded, or loading fails in one of these ways.**  A file that is not read to
its end, or a path in a variable that is too long, lets a fault escape; any other file that
cannot be read, an unknown key and a bad value are reported. -/
theorem load_failures {σ : Type} (lib : Library) (hlib : lib.IsLawful) (w : Surroundings)
    (explicit : Option Path) (overrides : Layer) (h : IsPlain overrides) (st : σ) :
    ∃ r, (load lib w explicit overrides).Yields st r st ∧
      (∀ f, r = .error (.fault f) ↔ (∃ path, Reads w explicit path ∧ Breaks w path f) ∨
        ∃ path, LongVariable w explicit path ∧ f = .refused ⟨.nameTooLong, some path.text, none⟩) ∧
      ((∃ d, r = .error (.diagnostic d) ∧ d.code = .invalidConfigFile) ↔
        ∃ path f, Reads w explicit path ∧ IsRefused w path f) ∧
      ((∃ d, r = .error (.diagnostic d) ∧ d.code = .invalidConfigValue) ↔
        ∃ l, HasLayers w explicit overrides l ∧
          (lib.HasUnknown l ∨ ∃ k v, lib.Counts l k v ∧ ¬ lib.IsValid v k)) ∧
      (∀ d, r = .error (.diagnostic d) → d.kind = .configuration ∧
        (d.code = .invalidConfigFile ∨ d.code = .invalidConfigValue)) ∧
      (∀ n, r = .error (.fault (.tooManyDigits n)) → ∃ path chars, Reads w explicit path ∧
        HasText w path chars ∧ Decimal.digitLimit < n ∧
        Toml.HasNumeral (Toml.joinLineEnds chars) n) ∧
      (r = .error (.fault .nestedTooDeeply) → ∃ path chars, Reads w explicit path ∧
        HasText w path chars ∧ Toml.depthLimit < 3 * Json.openings (Toml.joinLineEnds chars)) := by
  refine ⟨loaded lib w explicit overrides, load_yields hlib w explicit h st, ?_⟩
  simp only [loaded_eq_error hlib h]
  refine ⟨fun f => ⟨?_, ?_⟩, ⟨?_, ?_⟩, ⟨?_, ?_⟩, ?_, ?_, ?_⟩
  · rintro (⟨hreads, hbreaks⟩ | hlong)
    · exact .inl ⟨_, hreads, hbreaks⟩
    · exact .inr ⟨_, hlong, rfl⟩
  · rintro (⟨path, hreads, hbreaks⟩ | ⟨path, hlong, rfl⟩)
    · exact .breaks hreads hbreaks
    · exact .variable hlong
  · rintro ⟨d, hd | hd | ⟨hnames, hreads, hrefused⟩ | @⟨l, values, r, hlayers, hvalues, hr⟩, hcode⟩
    · exact ⟨_, _, hreads, hrefused⟩
    · rw [(isAboutValue_diagnostic r).2] at hcode
      cases hcode
  · rintro ⟨path, f, hreads, hrefused⟩
    obtain ⟨file, hfile⟩ := hreads.exists_namedPath
    exact ⟨_, .refused (namedPath_eq_ok.mp hfile) hreads hrefused, rfl⟩
  · rintro ⟨d, hd | hd | ⟨hnames, hreads, hrefused⟩ | @⟨l, values, r, hlayers, hvalues, hr⟩, hcode⟩
    · cases hcode
    · have hloaded := (loaded_eq_error hlib h).mpr (.value hlayers hvalues hr)
      exact ⟨l, hlayers, (exists_refusal_iff hlib h hlayers).mp ⟨r, hloaded⟩⟩
  · rintro ⟨l, hlayers, hl⟩
    obtain ⟨r, hr⟩ := (exists_refusal_iff hlib h hlayers).mpr hl
    exact ⟨r.diagnostic, (loaded_eq_error hlib h).mp hr, (isAboutValue_diagnostic r).2⟩
  · rintro d (hd | hd | ⟨hnames, hreads, hrefused⟩ | @⟨l, values, r, hlayers, hvalues, hr⟩)
    · exact ⟨rfl, .inl rfl⟩
    · exact ⟨(isAboutValue_diagnostic r).1, .inr (isAboutValue_diagnostic r).2⟩
  · rintro n (⟨hreads, hbreaks⟩)
    cases hbreaks with
    | longNumeral htext hread =>
      obtain ⟨hlong, hnumeral⟩ := Toml.concerns_of_read_eq_error hread
      exact ⟨_, _, hreads, htext, hlong, hnumeral⟩
  · rintro (⟨hreads, hbreaks⟩)
    cases hbreaks with
    | deepNesting htext hread => exact ⟨_, _, hreads, htext, Toml.concerns_of_read_eq_error hread⟩

/-- Without files and variables, a number in place of a directory is reported. -/
theorem number_reported :
    Library.standard.IsLawful ∧ IsPlain [("log_dir", .int 1)] ∧ ∃ d, d.code = .invalidConfigValue ∧
      (load .standard emptySurroundings none [("log_dir", .int 1)]).Yields ()
        (.error (.diagnostic d)) () := by
  have hplain : IsPlain [("log_dir", .int 1)] := by
    rw [IsPlain]
    simp
  have hlayers : HasLayers emptySurroundings none [("log_dir", .int 1)]
      ⟨[("log_dir", .int 1)], [], [.given, .environment, .file []]⟩ :=
    ⟨rfl, rfl, .unnamed (.unset (by rintro text ⟨⟩)) (.missing rfl (by decide +kernel))⟩
  have hcounts : Library.standard.Counts
      ⟨[("log_dir", .int 1)], [], [.given, .environment, .file []]⟩ .logDir (.int 1) :=
    ⟨[], .given, _, rfl, ⟨[], "log_dir", [], rfl, spells_text _ .logDir, by rintro x ⟨⟩⟩,
      by rintro x ⟨⟩⟩
  have hinvalid : ¬ Library.standard.IsValid (.int 1) .logDir := by
    rintro ⟨s, ⟨⟩⟩
  obtain ⟨r, hr, -, -, hvalue, -⟩ :=
    load_failures .standard standard_isLawful emptySurroundings none _ hplain ()
  obtain ⟨d, rfl, hd⟩ := hvalue.mpr ⟨_, hlayers, .inr ⟨_, _, hcounts, hinvalid⟩⟩
  exact ⟨standard_isLawful, hplain, d, hd, hr⟩

/-- Surroundings with a settings file that is no text. -/
def noTextFile : Surroundings where
  files := ⟨[(⟨.working, ["mir_dump.toml"]⟩,
    .file [0x6c, 0x6f, 0x67, 0x5f, 0x64, 0x69, 0x72, 0x20, 0x3d, 0x20, 0x22, 0xff, 0x22])]⟩
  environment := []

/-- A settings file that is no text is not reported. -/
theorem no_text_escapes :
    ∃ e, (load .standard noTextFile none []).Yields () (.error (.fault (.undecodable e))) () := by
  have hloaded : loaded .standard noTextFile none [] =
      .error (.fault (.undecodable ⟨0xff, 11, 1, .invalidStart⟩)) := by
    decide +kernel
  exact ⟨_, hloaded ▸ load_yields standard_isLawful _ _ isPlain_nil ()⟩

end BorrowGraph.Settings
