/-
Reports are no sources.

The reports of functions, and their temporary files, stand among the facts that other functions
are read from.  But no source has the name of a report.  So trees that differ in reports only
(`Resembles`) give the same facts and the same owners, or fail alike (`SameOutcome`), and a
function is reported in one of them just when it is reported in the other (`dumped_same`).
Since reporting a function changes nothing but its report (`dumped_cases`), it leaves a tree
that resembles the one before.
-/
import BorrowGraph.Proofs.PipelineRuns
import BorrowGraph.Proofs.ReportWriting

namespace BorrowGraph

/-! ### Trees that differ in reports only -/

namespace FileTree

/-- A key under which a report or its temporary file stands. -/
def Key.IsReport (k : Key) : Prop :=
  k.parts.getLast? = some "graph.dot" ∨ k.parts.getLast? = some "graph.dot.tmp"

/-- Trees that differ in reports only; the directories are the same. -/
structure Resembles (t t' : FileTree) : Prop where
  same : ∀ k : Key, ¬ k.IsReport → t'.node? k = t.node? k
  directories : SameDirectories t t'

variable {t t' : FileTree}

theorem Resembles.refl (t : FileTree) : t.Resembles t :=
  ⟨fun _ _ => rfl, fun _ => Iff.rfl⟩

theorem Resembles.trans {t'' : FileTree} (h : t.Resembles t') (h' : t'.Resembles t'') :
    t.Resembles t'' :=
  ⟨fun k hk => (h'.same k hk).trans (h.same k hk),
    fun k => (h.directories k).trans (h'.directories k)⟩

theorem DiffersAt.resembles {keys : List Key} (h : t.DiffersAt t' keys)
    (hkeys : ∀ k ∈ keys, k.IsReport) : t.Resembles t' :=
  ⟨fun k hk => h.same k fun hmem => hk (hkeys k hmem), h.directories⟩

/-- A walk ends below the directory that it has reached before. -/
theorem walk_concat {start k : Key} {cs : List String} {c : String}
    (h : t.walk start (cs ++ [c]) = .ok k) (hc : c ≠ "..") :
    ∃ k₀, t.walk start cs = .ok k₀ ∧ k = k₀.down c := by
  rw [walk_append] at h
  obtain ⟨k₀, hk₀, h⟩ := bind_eq_ok.mp h
  refine ⟨k₀, hk₀, ?_⟩
  rw [walk] at h
  split at h
  · cases h
  · cases h
  · rw [if_neg hc] at h
    split at h
    · cases h
    · exact (Except.ok.inj h).symm

theorem exists_of_locate_below {p : Path} {c : String} {k : Key} (h : t.locate (p.below c) = .ok k)
    (hc : c ≠ "..") : ∃ k₀, t.walk (startOf p) p.parts = .ok k₀ ∧ k = k₀.down c := by
  rw [locate] at h
  split at h
  · cases h
  · exact walk_concat h hc

theorem getLast?_of_locate_below {p : Path} {c : String} {k : Key}
    (h : t.locate (p.below c) = .ok k) (hc : c ≠ "..") : k.parts.getLast? = some c := by
  obtain ⟨k₀, -, rfl⟩ := exists_of_locate_below h hc
  simp [Key.down]

/-- What is not named like a report is found alike. -/
theorem Resembles.stat_sameFound (h : t.Resembles t') (p : Path) {c : String} (hc : c ≠ "..")
    (hreport : c ≠ "graph.dot") (htemporary : c ≠ "graph.dot.tmp") :
    SameFound (t.stat (p.below c)) (t'.stat (p.below c)) := by
  refine FileTree.stat_sameFound h.directories fun k hk => (h.same k ?_).symm
  have hlast := getLast?_of_locate_below hk hc
  rintro (hr | hr)
  · rw [hlast, Option.some_inj] at hr
    exact hreport hr
  · rw [hlast, Option.some_inj] at hr
    exact htemporary hr

end FileTree

open FileTree

/-! ### Outcomes -/

/-- A failure after which a run may go on. -/
def Failure.isRecoverable : Failure → Bool
  | .diagnostic d => d.kind.isRecoverable
  | .fault _ => false

/-- The same result, or two failures after which a run may go on. -/
inductive SameOutcome {α : Type} : Except Failure α → Except Failure α → Prop where
  | refl (r : Except Failure α) : SameOutcome r r
  | failed {e e' : Failure} : e.isRecoverable = true → e'.isRecoverable = true →
      SameOutcome (.error e) (.error e')

theorem SameOutcome.bind {α β : Type} {x y : Except Failure α} {f g : α → Except Failure β}
    (h : SameOutcome x y) (hfg : ∀ a, SameOutcome (f a) (g a)) :
    SameOutcome (x >>= f) (y >>= g) := by
  cases h with
  | failed he he' => exact .failed he he'
  | refl =>
    cases x with
    | error e => exact .refl _
    | ok a => exact hfg a

theorem SameOutcome.ok {α : Type} {x y : Except Failure α} (h : SameOutcome x y) {a : α}
    (hx : x = .ok a) : y = .ok a := by
  cases h with
  | refl => exact hx
  | failed => cases hx

theorem SameOutcome.symm {α : Type} {x y : Except Failure α} (h : SameOutcome x y) :
    SameOutcome y x := by
  cases h with
  | refl => exact .refl _
  | failed he he' => exact .failed he' he

/-- Two failures that are the same for a run. -/
theorem SameOutcome.error {α : Type} {x y : Except Failure α} (h : SameOutcome x y) {e : Failure}
    (hx : x = .error e) :
    ∃ e', y = .error e' ∧ e'.isRecoverable = e.isRecoverable := by
  cases h with
  | refl => exact ⟨e, hx, rfl⟩
  | failed he he' =>
    cases hx
    exact ⟨_, rfl, by rw [he, he']⟩

/-! ### Facts -/

namespace FactStore

variable {t t' : FileTree}

theorem child_fileOf (directory : Path) (relation : Relation) :
    directory.child (fileOf relation) = directory.below (fileOf relation) := by
  refine Path.child_eq_below _ ?_ ?_ ?_
  · cases relation <;> decide
  · cases relation <;> decide
  · cases relation <;> decide

theorem stat_fileOf (h : t.Resembles t') (directory : Path) (relation : Relation) :
    SameFound (t.stat (directory.child (fileOf relation)))
      (t'.stat (directory.child (fileOf relation))) := by
  rw [child_fileOf]
  refine h.stat_sameFound directory ?_ ?_ ?_
  · cases relation <;> decide
  · cases relation <;> decide
  · cases relation <;> decide

theorem loadRelation_congr (h : t.Resembles t') (directory : Path) (relation : Relation) :
    loadRelation t directory relation = loadRelation t' directory relation := by
  have hstat := stat_fileOf h directory relation
  have hthere : t.isThere (directory.child (fileOf relation)) =
      t'.isThere (directory.child (fileOf relation)) := ask_eq hstat _
  rw [loadRelation_eq, loadRelation_eq, ← hthere]
  rcases hb : t.isThere (directory.child (fileOf relation)) with f | _ | _
  · rfl
  · rfl
  · -- There is something at the path, so its bytes are the same in both trees.
    simp only
    rw [loadFile, loadFile, fileLines, fileLines, readBytes_eq_of_isThere hstat hb]

theorem loadRelations_congr (h : t.Resembles t') (directory : Path) (relations : List Relation) :
    loadRelations t directory relations = loadRelations t' directory relations := by
  induction relations with
  | nil => rfl
  | cons relation relations ih =>
    rw [loadRelations, loadRelations, loadRelation_congr h, ih]

theorem loadedFrom_congr (h : t.Resembles t') (directory : Path) :
    loadedFrom t directory = loadedFrom t' directory := by
  have hload : load t directory = load t' directory := by
    rw [load, load, isDirectory_eq h.directories, loadRelations_congr h]
  rw [loadedFrom, loadedFrom, hload]

/-- Facts can only be read from a directory. -/
theorem isDirectory_of_loadedFrom {directory : Path} {store : FactStore}
    (h : loadedFrom t directory = .ok store) : t.isDirectory directory = .ok true := by
  rw [loadedFrom] at h
  rcases hd : t.isDirectory directory with f | _ | _
  · have hyields : (load t directory).Yields {} (.error (.fault f)) {} := by
      rw [load, hd]
      exact (Task.yields_note _ _).bind (Task.yields_ofExcept _ _).bind_error
    rw [hyields.start.1] at h
    cases h
  · have hyields : (load t directory).Yields {}
        (.error (.diagnostic (missingDiagnostic directory "fact directory not found"))) {} := by
      rw [load, hd]
      exact (Task.yields_note _ _).bind ((Task.yields_ofExcept _ _).bind (Task.yields_throw _ _))
    rw [hyields.start.1] at h
    cases h
  · rfl

end FactStore

/-! ### Functions -/

namespace Pipeline

variable {p : Pipeline} {f : Function} {t t' : FileTree}

theorem owners_same (h : t.Resembles t') (s : Settings) {name : String}
    (hname : '/' ∉ name.toList) :
    SameOutcome (Owners.loadedFrom t (s.listingPath name))
      (Owners.loadedFrom t' (s.listingPath name)) := by
  have hstat : SameFound (t.stat (s.listingPath name)) (t'.stat (s.listingPath name)) := by
    rw [s.listingPath_eq hname]
    exact h.stat_sameFound _ (Settings.listingFile_ne name (by decide))
      (Settings.listingFile_ne name (by decide)) (Settings.listingFile_ne name (by decide))
  rw [Owners.loadedFrom, Owners.loadedFrom]
  rcases readBytes_same hstat with heq | ⟨e, e', he, he'⟩
  · rw [heq]
    exact .refl _
  · rw [he, he']
    exact .failed rfl rfl

/-- Trees that differ in reports only give the same report of a function, or no report. -/
theorem reportOf_same (h : t.Resembles t') : SameOutcome (p.reportOf t f) (p.reportOf t' f) := by
  have howners := owners_same h p.settings (noSlash_fileName f.path)
  rw [reportOf, reportOf, Analysis.loadedFrom, Analysis.loadedFrom,
    FactStore.loadedFrom_congr h]
  refine SameOutcome.bind (SameOutcome.bind (.refl _) fun store => ?_) fun a => .refl _
  exact howners.bind fun owners => .refl _

theorem path_of_build {body : Body} {a : Analysis} {init : Option Initialization}
    {name path : String} {r : Report} (hpath : path ≠ "")
    (h : Report.build body a init name path = .ok r) : r.path = path := by
  rw [Report.build] at h
  obtain ⟨blocks, -, hbuild⟩ := bind_eq_ok.mp h
  rw [← Except.ok.inj hbuild]
  have hne : ¬ path.isEmpty = true := by rwa [String.isEmpty_iff]
  exact if_neg hne

/-- A function with a report has a directory of facts, and the report bears its file name. -/
theorem reportOf_eq_ok {r : Report} (h : p.reportOf t f = .ok r) :
    t.isDirectory (p.settings.factsPath (fileName f.path)) = .ok true ∧
      r.path = fileName f.path := by
  rw [reportOf] at h
  obtain ⟨a, ha, hr⟩ := bind_eq_ok.mp h
  rw [Analysis.loadedFrom] at ha
  obtain ⟨store, hstore, -⟩ := bind_eq_ok.mp ha
  refine ⟨FactStore.isDirectory_of_loadedFrom hstore, ?_⟩
  exact path_of_build (fileName_ne_empty f.path) hr

/-- The report of a function, if it can be drawn. -/
def drawableOf (p : Pipeline) (files : FileTree) (f : Function) : Except Failure Report := do
  let r ← p.reportOf files f
  let _ ← (Dot.draw p.settings r).mapError .fault
  return r

theorem drawableOf_same (h : t.Resembles t') :
    SameOutcome (p.drawableOf t f) (p.drawableOf t' f) :=
  (reportOf_same h).bind fun _ => .refl _

theorem drawableOf_eq_ok {r : Report} (h : p.drawableOf t f = .ok r) : p.reportOf t f = .ok r := by
  obtain ⟨r', hr, h⟩ := bind_eq_ok.mp h
  obtain ⟨_, -, h⟩ := bind_eq_ok.mp h
  exact hr.trans h

/-- Only a report that can be drawn is put into its place. -/
theorem dumped_eq (p : Pipeline) (t : FileTree) (f : Function) :
    p.dumped t f =
      match p.drawableOf t f with
      | .error e => (t, .error e)
      | .ok r => Report.place t r (Dot.render p.settings r) (p.settings.reportPath r.path) {} := by
  rw [dumped, drawableOf]
  rcases p.reportOf t f with e | r
  · rfl
  · by_cases hdraw : Dot.IsDrawable p.settings r
    · simp only [writeReport, Report.write, Dot.draw, if_pos hdraw, Except.mapError, ok_bind]
      rfl
    · simp only [writeReport, Report.write, Dot.draw, if_neg hdraw, Except.mapError, ok_bind]
      rfl

/-- The directory of the facts of a function. -/
def directoryOf (p : Pipeline) (f : Function) : Path :=
  p.settings.factsPath (fileName f.path)

/-- The keys of the report of a function and of its temporary file. -/
def reportKeys (p : Pipeline) (files : FileTree) (f : Function) : List Key :=
  files.locatedKeys [(p.directoryOf f).below "graph.dot", (p.directoryOf f).below "graph.dot.tmp"]

theorem isReport_of_mem_reportKeys {k : Key} (h : k ∈ p.reportKeys t f) : k.IsReport := by
  obtain ⟨q, hq, hk⟩ := mem_locatedKeys.mp h
  rcases List.mem_pair.mp hq with rfl | rfl
  · exact .inl (getLast?_of_locate_below hk (by decide))
  · exact .inr (getLast?_of_locate_below hk (by decide))

/-- What reporting a function does: there is no report that can be drawn and nothing changes,
or the report is written as a whole, or writing it is refused and at most its temporary file
changes. -/
theorem dumped_cases (p : Pipeline) (t : FileTree) (f : Function) :
    (∃ e, p.drawableOf t f = .error e ∧ p.dumped t f = (t, .error e)) ∨
    (∃ r k t', p.drawableOf t f = .ok r ∧ t.IsDirectoryAt (p.directoryOf f) k ∧
      Report.CanWrite t (p.directoryOf f) k ∧
      p.dumped t f = (t', .ok (p.settings.reportPath (fileName f.path))) ∧
      t'.node? (k.down "graph.dot") = some (.file (Utf8.encode (Dot.render p.settings r))) ∧
      t.DiffersAt t' (p.reportKeys t f)) ∨
    (∃ r k t' d, p.drawableOf t f = .ok r ∧ t.IsDirectoryAt (p.directoryOf f) k ∧
      ¬ Report.CanWrite t (p.directoryOf f) k ∧ p.dumped t f = (t', .error (.diagnostic d)) ∧
      d.kind = .reportWrite ∧
      t.DiffersAt t' (t.locatedKeys [(p.directoryOf f).below "graph.dot.tmp"])) := by
  rcases hr : p.drawableOf t f with e | r
  · left
    refine ⟨e, rfl, ?_⟩
    rw [dumped_eq, hr]
  · right
    obtain ⟨hdir, hpath⟩ := reportOf_eq_ok (drawableOf_eq_ok hr)
    obtain ⟨k, hk⟩ := exists_isDirectoryAt hdir
    have hdumped : p.dumped t f =
        Report.place t r (Dot.render p.settings r) ((p.directoryOf f).below "graph.dot") {} := by
      rw [dumped_eq, hr]
      simp only [hpath, Settings.reportPath_eq, directoryOf]
    by_cases hw : Report.CanWrite t (p.directoryOf f) k
    · obtain ⟨t', hwrite, hfile, hdiffers⟩ := Report.place_of_canWrite hk r _ hw
      refine .inl ⟨r, k, t', rfl, hk, hw, ?_, hfile, hdiffers⟩
      rw [hdumped, Settings.reportPath_eq]
      exact hwrite
    · obtain ⟨t', d, hwrite, hkind, hdiffers⟩ := Report.place_of_not_canWrite hk r _ hw
      exact .inr ⟨r, k, t', d, rfl, hk, hw, hdumped.trans hwrite, hkind, hdiffers⟩

theorem locatedKeys_subset_reportKeys (p : Pipeline) (t : FileTree) (f : Function) :
    t.locatedKeys [(p.directoryOf f).below "graph.dot.tmp"] ⊆ p.reportKeys t f := by
  intro k hk
  obtain ⟨q, hq, hlocated⟩ := mem_locatedKeys.mp hk
  rw [List.mem_singleton] at hq
  exact mem_locatedKeys.mpr ⟨q, by simp [hq], hlocated⟩

/-- Reporting a function changes at most its report and its temporary file. -/
theorem dumped_differsAt (p : Pipeline) (t : FileTree) (f : Function) :
    t.DiffersAt (p.dumped t f).1 (p.reportKeys t f) := by
  rcases p.dumped_cases t f with ⟨e, -, hd⟩ | ⟨r, k, t', -, -, -, hd, -, hdiffers⟩ |
    ⟨r, k, t', d, -, -, -, hd, -, hdiffers⟩
  · rw [hd]
    exact DiffersAt.refl _ _
  · rw [hd]
    exact hdiffers
  · rw [hd]
    exact hdiffers.mono (p.locatedKeys_subset_reportKeys t f)

theorem dumped_resembles (p : Pipeline) (t : FileTree) (f : Function) :
    t.Resembles (p.dumped t f).1 :=
  (p.dumped_differsAt t f).resembles fun _ hk => isReport_of_mem_reportKeys hk

/-- A function is reported, or fails, alike in trees that differ in reports only. -/
theorem dumped_same (h : t.Resembles t') : SameOutcome (p.dumped t f).2 (p.dumped t' f).2 := by
  have hreport : SameOutcome (p.drawableOf t f) (p.drawableOf t' f) := drawableOf_same h
  rcases p.dumped_cases t f with ⟨e, hr, hd⟩ | ⟨r, k, t₁, hr, hk, hw, hd, -⟩ |
    ⟨r, k, t₁, d, hr, hk, hw, hd, hkind, -⟩
  · -- Without a report there is none in the other tree either.
    obtain ⟨e', hr', -⟩ := hreport.error hr
    rw [hr, hr'] at hreport
    have hd' : p.dumped t' f = (t', .error e') := by rw [dumped_eq, hr']
    rw [hd, hd']
    cases hreport with
    | refl => exact .refl _
    | failed he he' => exact .failed he he'
  · have hk' := hk.of_sameDirectories h.directories
    have hw' := hw.of_sameDirectories h.directories
    rcases p.dumped_cases t' f with ⟨e, hr', -⟩ | ⟨r', k', t₂, hr', -, -, hd', -⟩ |
      ⟨r', k', t₂, d, hr', hk'', hw'', -⟩
    · rw [hreport.ok hr] at hr'
      cases hr'
    · rw [hd, hd']
      exact .refl _
    · obtain rfl : k = k' := Except.ok.inj (hk'.located.symm.trans hk''.located)
      exact absurd hw' hw''
  · have hk' := hk.of_sameDirectories h.directories
    rcases p.dumped_cases t' f with ⟨e, hr', -⟩ | ⟨r', k', t₂, hr', hk'', hw'', hd', -⟩ |
      ⟨r', k', t₂, d', hr', -, -, hd', hkind', -⟩
    · rw [hreport.ok hr] at hr'
      cases hr'
    · obtain rfl : k = k' := Except.ok.inj (hk'.located.symm.trans hk''.located)
      exact absurd (hw''.of_sameDirectories h.directories.symm) hw
    · rw [hd, hd']
      refine .failed ?_ ?_
      · rw [Failure.isRecoverable, hkind]
        rfl
      · rw [Failure.isRecoverable, hkind']
        rfl

/-- The keys of a report are the same in trees with the same directories. -/
theorem reportKeys_eq (h : SameDirectories t t') : p.reportKeys t' f = p.reportKeys t f :=
  locatedKeys_eq h _

end Pipeline
end BorrowGraph
