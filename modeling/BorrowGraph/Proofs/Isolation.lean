/-
Functions do not disturb each other.

A run that keeps going deals with each function as if it were alone on the files that the run
has started with:

* `step_cases`: what becomes of one function, and what it leaves behind;
* `Settles`, `steps_settles`: what becomes of several functions in turn, by induction: the
  files always resemble those of the start, so each function has the outcome that it has there;
* `readBytes_of_steps`: a report stays what it is when later functions have other file names;
* `run_isolated`: a whole run.
-/
import BorrowGraph.Proofs.SourceIndependence

namespace BorrowGraph

open FileTree

namespace Pipeline

/-! ### The outcome for one function -/

/-- The entry of a function that was reported. -/
def writtenEntry (f : Function) : Except Failure Path → List (String × Path)
  | .ok path => [(f.name, path)]
  | .error _ => []

/-- The entry of a function that failed. -/
def failedEntry (f : Function) : Except Failure Path → List String
  | .ok _ => []
  | .error _ => [f.name]

/-- A run that keeps going may go on after it. -/
def spares : Except Failure Path → Bool
  | .ok _ => true
  | .error e => e.isRecoverable

theorem spares_eq_true_iff {r : Except Failure Path} :
    spares r = true ↔ ∀ e, r = .error e → e.isRecoverable = true := by
  cases r with
  | ok path => simp [spares]
  | error e => simp [spares]

section Same

variable {r r' : Except Failure Path} (h : SameOutcome r r')
include h

theorem writtenEntry_same (f : Function) : writtenEntry f r' = writtenEntry f r := by
  cases h with
  | refl => rfl
  | failed => rfl

theorem failedEntry_same (f : Function) : failedEntry f r' = failedEntry f r := by
  cases h with
  | refl => rfl
  | failed => rfl

theorem spares_same : spares r' = spares r := by
  cases h with
  | refl => rfl
  | failed he he' => rw [spares, spares, he, he']

end Same

variable {p : Pipeline}

/-- What becomes of one function when the run keeps going: it is entered and the run goes on,
or the run ends. -/
theorem step_cases (hgo : p.keepGoing = true) (f : Function) (s : Run) :
    (spares (p.dumped s.files f).2 = true ∧
      ∃ s', p.step f s = (.ok (), s') ∧ s'.files = (p.dumped s.files f).1 ∧
        s'.summary.written = s.summary.written ++ writtenEntry f (p.dumped s.files f).2 ∧
        s'.summary.failed.map Prod.fst =
          s.summary.failed.map Prod.fst ++ failedEntry f (p.dumped s.files f).2 ∧
        s'.summary.skipped = s.summary.skipped) ∨
    (spares (p.dumped s.files f).2 = false ∧
      ∃ e s', p.step f s = (.error e, s') ∧ s'.files = (p.dumped s.files f).1) := by
  rw [step]
  rcases p.dumped s.files f with ⟨files, (d | e) | path⟩
  · rcases hd : d.kind.isRecoverable with _ | _
    · refine .inr ⟨hd, .diagnostic d, ⟨files, s.summary⟩, ?_, rfl⟩
      rw [enter, hd]
      rfl
    · refine .inl ⟨hd, ⟨files, s.summary.addFailed f.name d⟩, ?_, rfl, ?_, ?_, rfl⟩
      · rw [enter, hd, hgo]
        rfl
      · exact (List.append_nil _).symm
      · exact List.map_append
  · exact .inr ⟨rfl, .fault e, ⟨files, s.summary⟩, rfl, rfl⟩
  · exact .inl ⟨rfl, ⟨files, s.summary.addWritten f.name path⟩, rfl, rfl, rfl,
      (List.append_nil _).symm, rfl⟩

/-! ### Several functions -/

/-- Functions have been entered into the summary as they come out on the given files. -/
structure Settles (p : Pipeline) (files : FileTree) (fs : List Function) (s s' : Summary) :
    Prop where
  written : s'.written = s.written ++ fs.flatMap fun f => writtenEntry f (p.dumped files f).2
  failed : s'.failed.map Prod.fst =
    s.failed.map Prod.fst ++ fs.flatMap fun f => failedEntry f (p.dumped files f).2
  skipped : s'.skipped = s.skipped

/-- A run deals with each function as it comes out on files that resemble those of the start. -/
theorem steps_settles (hgo : p.keepGoing = true) {files : FileTree} (fs : List Function) {s : Run}
    (h : files.Resembles s.files) :
    ∃ r s', p.steps fs s = (r, s') ∧
      s.files.DiffersAt s'.files (fs.flatMap (p.reportKeys files)) ∧
      ((∀ f ∈ fs, spares (p.dumped files f).2 = true) ∧ r = .ok () ∧
          p.Settles files fs s.summary s'.summary ∨
        (∃ f ∈ fs, spares (p.dumped files f).2 = false) ∧ ∃ e, r = .error e) := by
  induction fs generalizing s with
  | nil =>
    refine ⟨.ok (), s, rfl, DiffersAt.refl _ _, .inl ⟨by simp, rfl, ?_⟩⟩
    exact ⟨(List.append_nil _).symm, (List.append_nil _).symm, rfl⟩
  | cons f fs ih =>
    -- The files go on resembling those of the start, so the outcome is what it would be there.
    have hsame : SameOutcome (p.dumped files f).2 (p.dumped s.files f).2 := dumped_same h
    have hdiffers : s.files.DiffersAt (p.dumped s.files f).1 (p.reportKeys files f) := by
      rw [← reportKeys_eq h.directories]
      exact p.dumped_differsAt s.files f
    rw [steps]
    rcases step_cases hgo f s with ⟨hspares, s₁, hstep, hfiles, hwritten, hfailed, hskipped⟩ |
      ⟨hspares, e, s₁, hstep, hfiles⟩
    · have hresembles : files.Resembles s₁.files := by
        rw [hfiles]
        exact h.trans (p.dumped_resembles s.files f)
      obtain ⟨r, s', hsteps, hdiffers', hcases⟩ := ih hresembles
      rw [spares_same hsame] at hspares
      rw [writtenEntry_same hsame] at hwritten
      rw [failedEntry_same hsame] at hfailed
      rw [hstep, andThen]
      refine ⟨r, s', hsteps, ?_, ?_⟩
      · rw [hfiles] at hdiffers'
        rw [List.flatMap_cons]
        exact hdiffers.trans hdiffers'
      · rcases hcases with ⟨hall, hr, hsettles⟩ | ⟨⟨g, hg, hnot⟩, hr⟩
        · refine .inl ⟨List.forall_mem_cons.mpr ⟨hspares, hall⟩, hr, ?_, ?_, ?_⟩
          · rw [hsettles.written, hwritten, List.flatMap_cons, List.append_assoc]
          · rw [hsettles.failed, hfailed, List.flatMap_cons, List.append_assoc]
          · rw [hsettles.skipped, hskipped]
        · exact .inr ⟨⟨g, List.mem_cons_of_mem _ hg, hnot⟩, hr⟩
    · rw [spares_same hsame] at hspares
      rw [hstep, andThen]
      refine ⟨.error e, s₁, rfl, ?_, .inr ⟨⟨f, List.mem_cons_self, hspares⟩, e, rfl⟩⟩
      rw [hfiles, List.flatMap_cons]
      exact hdiffers.mono fun k hk => List.mem_append_left _ hk

/-! ### Reports stay what they are -/

/-- The keys of the reports of functions with different file names are different. -/
theorem fileName_eq_of_mem_reportKeys {files : FileTree} {f g : Function} {k : Key}
    (hf : fileName f.path ≠ "." ∧ fileName f.path ≠ "..")
    (hg : fileName g.path ≠ "." ∧ fileName g.path ≠ "..")
    (hk : files.locate (p.directoryOf f) = .ok k)
    (hmem : k.down "graph.dot" ∈ p.reportKeys files g) : fileName f.path = fileName g.path := by
  -- Both keys end in the file name and the name of the report.
  have hdirectory : ∀ h : Function, fileName h.path ≠ "." → p.directoryOf h =
      (Path.ofText p.settings.factsDir).below (fileName h.path) := fun h hdot =>
    Settings.factsPath_eq _ (noSlash_fileName _) (fileName_ne_empty _) hdot
  rw [hdirectory f hf.1] at hk
  obtain ⟨k₀, -, rfl⟩ := exists_of_locate_below hk hf.2
  obtain ⟨q, hq, hlocated⟩ := mem_locatedKeys.mp hmem
  obtain ⟨c, hc, rfl⟩ : ∃ c, c ≠ ".." ∧ q = (p.directoryOf g).below c := by
    rcases List.mem_pair.mp hq with rfl | rfl
    · exact ⟨_, by decide, rfl⟩
    · exact ⟨_, by decide, rfl⟩
  obtain ⟨k₁, hwalk, heq⟩ := exists_of_locate_below hlocated hc
  rw [hdirectory g hg.1] at hwalk
  obtain ⟨k₂, -, rfl⟩ := walk_concat hwalk hg.2
  exact (Key.down_inj (Key.down_inj heq).1).2

/-- A written report is there at the end of a run, if later functions have other file names. -/
theorem readBytes_of_steps (hgo : p.keepGoing = true) {files : FileTree} {s s' : Run}
    (h : files.Resembles s.files) {before after : List Function} {f : Function} {path : Path}
    (hsteps : p.steps (before ++ f :: after) s = (.ok (), s'))
    (hpath : (p.dumped files f).2 = .ok path)
    (hf : fileName f.path ≠ "." ∧ fileName f.path ≠ "..")
    (hafter : ∀ g ∈ after, (fileName g.path ≠ "." ∧ fileName g.path ≠ "..") ∧
      fileName f.path ≠ fileName g.path) :
    ∃ r, p.reportOf files f = .ok r ∧
      s'.files.readBytes path = .ok (Utf8.encode (Dot.render p.settings r)) := by
  obtain ⟨r₁, s₁, hbefore, hdiffers₁, -⟩ := steps_settles hgo before h
  have h₁ : files.Resembles s₁.files := by
    refine h.trans (hdiffers₁.resembles fun k hk => ?_)
    obtain ⟨g, -, hg⟩ := List.mem_flatMap.mp hk
    exact isReport_of_mem_reportKeys hg
  rw [steps_append, hbefore] at hsteps
  rcases r₁ with e | _
  · cases hsteps
  rw [andThen, steps] at hsteps
  have hpath₁ : (p.dumped s₁.files f).2 = .ok path := (dumped_same h₁).ok hpath
  rcases p.dumped_cases s₁.files f with ⟨e, -, hd⟩ | ⟨r, k, t, hr, hk, hw, hd, hfile, -⟩ |
    ⟨r, k, t, d, -, -, -, hd, -⟩
  · rw [hd] at hpath₁
    cases hpath₁
  · rw [hd] at hpath₁
    obtain rfl := Except.ok.inj hpath₁
    -- From here on nothing is written to the key of this report.
    obtain ⟨s₂, hstep, hs₂⟩ : ∃ s₂, p.step f s₁ = (.ok (), s₂) ∧ s₂.files = t := by
      rw [step, hd]
      exact ⟨_, rfl, rfl⟩
    rw [hstep, andThen] at hsteps
    have h₂ : files.Resembles s₂.files := by
      have hdumped := p.dumped_resembles s₁.files f
      rw [hd] at hdumped
      rw [hs₂]
      exact h₁.trans hdumped
    obtain ⟨r₂, s₃, hrest, hdiffers₂, -⟩ := steps_settles hgo after h₂
    rw [hsteps] at hrest
    obtain ⟨-, rfl⟩ := Prod.mk.inj hrest
    have hkf : files.locate (p.directoryOf f) = .ok k :=
      (locate_sameFound h₁.directories.symm _).ok hk.located
    have hnot : k.down "graph.dot" ∉ after.flatMap (p.reportKeys files) := by
      intro hmem
      obtain ⟨g, hg, hmem⟩ := List.mem_flatMap.mp hmem
      exact (hafter g hg).2 (fileName_eq_of_mem_reportKeys hf (hafter g hg).1 hkf hmem)
    have hnode : s'.files.node? (k.down "graph.dot") =
        some (.file (Utf8.encode (Dot.render p.settings r))) := by
      rw [hdiffers₂.same _ hnot, hs₂, hfile]
    refine ⟨r, (reportOf_same h₁).symm.ok (drawableOf_eq_ok hr), ?_⟩
    have hdirectories : SameDirectories s₁.files s'.files := fun k =>
      (h₁.directories k).symm.trans ((h₂.directories k).trans (hdiffers₂.directories k))
    rw [Settings.reportPath_eq]
    exact Report.readBytes_of_node (hk.of_sameDirectories hdirectories) hw.short hnode
  · rw [hd] at hpath₁
    cases hpath₁

end Pipeline

/-! ### Whole runs -/

/-- A summary has one entry, under a name, in one of its lists. -/
def Summary.IsEntryOf (s : Summary) (name : String) : Prop :=
  (s.skipped = [name] ∧ s.written = [] ∧ s.failed = []) ∨
    (s.skipped = [] ∧ (∃ path, s.written = [(name, path)]) ∧ s.failed = []) ∨
    (s.skipped = [] ∧ s.written = [] ∧ ∃ d, s.failed = [(name, d)])

namespace Pipeline

variable {p : Pipeline}

/-- What becomes of a function that is run alone. -/
def alone (p : Pipeline) (files : FileTree) (f : Function) : Summary :=
  ((p.run [f]).start { files := files }).2.state.summary

theorem dump_start (p : Pipeline) (files : FileTree) (f : Function) :
    ((p.dump f).start files).1 = (p.dumped files f).2 := by
  rcases h : p.dumped files f with ⟨files', r⟩
  exact (dump_yields h).start.1

/-- A function is skipped if it is a specification, or not the only one to be reported. -/
theorem isSelected_eq_false_iff {f : Function} :
    p.isSelected f = false ↔ specificationEnd.toList <:+ f.name.toList ∨
      ∃ name, p.settings.proc = some name ∧ f.name ≠ name := by
  rw [isSelected, isSpecification, ← List.isSuffixOf_iff_suffix]
  rcases specificationEnd.toList.isSuffixOf f.name.toList with _ | _
  · rcases p.settings.proc with _ | name
    · simp
    · simp
  · simp

theorem alone_of_skipped (hinfo : p.settings.dumpInfo = true) {f : Function}
    (hf : p.isSelected f = false) (files : FileTree) :
    p.alone files f = { skipped := [f.name] } := by
  have hsteps : p.steps ([f].filter p.isSelected)
      { ({ files := files } : Run) with summary := p.skipping [f] {} } =
      (.ok (), { files := files, summary := { skipped := [f.name] } }) := by
    simp [hf, steps, skipping]
  rw [alone, (run_yields hinfo hsteps).start.2]

theorem alone_of_selected (hgo : p.keepGoing = true) (hinfo : p.settings.dumpInfo = true)
    {f : Function} (hf : p.isSelected f = true) {files : FileTree}
    (hspares : spares (p.dumped files f).2 = true) :
    (p.alone files f).skipped = [] ∧
      (p.alone files f).written = writtenEntry f (p.dumped files f).2 ∧
      (p.alone files f).failed.map Prod.fst = failedEntry f (p.dumped files f).2 := by
  obtain ⟨r, s', hsteps, -, hcases⟩ :=
    steps_settles hgo [f] (s := { files := files }) (Resembles.refl files)
  have hstart : p.steps ([f].filter p.isSelected)
      { ({ files := files } : Run) with summary := p.skipping [f] {} } = (r, s') := by
    rw [← hsteps]
    simp [hf, skipping]
  rcases hcases with ⟨-, -, hsettles⟩ | ⟨⟨g, hg, hnot⟩, -⟩
  · rw [alone, (run_yields hinfo hstart).start.2]
    refine ⟨hsettles.skipped, hsettles.written.trans ?_, hsettles.failed.trans ?_⟩
    · simp
    · simp
  · rw [List.mem_singleton.mp hg, hspares] at hnot
    cases hnot

/-- A selected function that is run alone is reported or has failed. -/
theorem isEntryOf_alone (hgo : p.keepGoing = true) (hinfo : p.settings.dumpInfo = true)
    {f : Function} {files : FileTree}
    (hspares : p.isSelected f = true → spares (p.dumped files f).2 = true) :
    (p.alone files f).IsEntryOf f.name := by
  rcases hf : p.isSelected f with _ | _
  · rw [alone_of_skipped hinfo hf]
    exact .inl ⟨rfl, rfl, rfl⟩
  · obtain ⟨hskipped, hwritten, hfailed⟩ := alone_of_selected hgo hinfo hf (hspares hf)
    rcases hr : (p.dumped files f).2 with e | path
    · rw [hr, failedEntry] at hfailed
      rw [hr, writtenEntry] at hwritten
      obtain ⟨⟨name, d⟩, hd, rfl⟩ := List.map_eq_singleton_iff.mp hfailed
      exact .inr (.inr ⟨hskipped, hwritten, d, hd⟩)
    · rw [hr, failedEntry, List.map_eq_nil_iff] at hfailed
      rw [hr, writtenEntry] at hwritten
      exact .inr (.inl ⟨hskipped, ⟨path, hwritten⟩, hfailed⟩)

/-- Each function of a run has been dealt with as if it were alone on the files of the start. -/
structure IsIsolated (p : Pipeline) (files : FileTree) (fs : List Function) (final : Run) :
    Prop where
  /-- The entries are those of the functions alone, in order. -/
  skipped : final.summary.skipped = fs.flatMap fun f => (p.alone files f).skipped
  written : final.summary.written = fs.flatMap fun f => (p.alone files f).written
  failed : final.summary.failed.map Prod.fst =
    fs.flatMap fun f => (p.alone files f).failed.map Prod.fst
  entry : ∀ f ∈ fs, (p.alone files f).IsEntryOf f.name
  skipped_iff : ∀ f ∈ fs, (p.alone files f).skipped = [f.name] ↔
    specificationEnd.toList <:+ f.name.toList ∨
      ∃ name, p.settings.proc = some name ∧ f.name ≠ name
  /-- Only reports of selected functions, and their temporary files, have changed. -/
  unchanged : ∀ k, (∀ f ∈ fs, p.isSelected f = true →
      files.locate (p.settings.reportPath (fileName f.path)) ≠ .ok k ∧
      files.locate ((p.settings.reportPath (fileName f.path)).addSuffix "graph.dot" ".tmp") ≠
        .ok k) →
    final.files.node? k = files.node? k
  /-- With different file names, each written report is there. -/
  contents : ((fs.filter p.isSelected).map fun f => fileName f.path).Nodup →
    (∀ f ∈ fs.filter p.isSelected, fileName f.path ≠ "." ∧ fileName f.path ≠ "..") →
    ∀ f ∈ fs.filter p.isSelected, ∀ path, (f.name, path) ∈ (p.alone files f).written →
      path = p.settings.reportPath (fileName f.path) ∧
      ∃ r, ((p.analyze f).start files).1 = .ok r ∧
        final.files.readBytes path = .ok (Utf8.encode (Dot.render p.settings r))

/-- The entries of selected functions, taken from all functions. -/
theorem flatMap_filter_eq {α β : Type} (q : α → Bool) {g g' : α → List β} {xs : List α}
    (h : ∀ x ∈ xs, g' x = if q x then g x else []) :
    (xs.filter q).flatMap g = xs.flatMap g' := by
  induction xs with
  | nil => rfl
  | cons x xs ih =>
    rw [List.forall_mem_cons] at h
    rw [List.flatMap_cons, h.1, ← ih h.2]
    rcases hq : q x with _ | _
    · rw [List.filter_cons_of_neg (by simp [hq])]
      rfl
    · rw [List.filter_cons_of_pos hq, List.flatMap_cons]
      rfl

/-- The temporary file of a report is next to it. -/
theorem temporary_eq (p : Pipeline) (f : Function) :
    (p.settings.reportPath (fileName f.path)).addSuffix "graph.dot" ".tmp" =
      (p.directoryOf f).below "graph.dot.tmp" := by
  rw [Settings.reportPath_eq, Path.addSuffix_below]
  rfl

/-- Keys to which neither the path of a report nor that of its temporary file leads. -/
theorem not_mem_reportKeys {files : FileTree} {f : Function} {k : Key}
    (htarget : files.locate (p.settings.reportPath (fileName f.path)) ≠ .ok k)
    (htemporary : files.locate ((p.settings.reportPath (fileName f.path)).addSuffix "graph.dot"
      ".tmp") ≠ .ok k) : k ∉ p.reportKeys files f := by
  rw [Settings.reportPath_eq] at htarget
  rw [temporary_eq] at htemporary
  intro hk
  obtain ⟨q, hq, hlocated⟩ := mem_locatedKeys.mp hk
  rcases List.mem_pair.mp hq with rfl | rfl
  · exact htarget hlocated
  · exact htemporary hlocated

/-- A report goes to the path that the settings give. -/
theorem path_of_dumped {files : FileTree} {f : Function} {path : Path}
    (h : (p.dumped files f).2 = .ok path) : path = p.settings.reportPath (fileName f.path) := by
  rcases p.dumped_cases files f with ⟨e, -, hd⟩ | ⟨r, k, t, -, -, -, hd, -⟩ |
    ⟨r, k, t, d, -, -, -, hd, -⟩
  · rw [hd] at h
    cases h
  · rw [hd] at h
    exact (Except.ok.inj h).symm
  · rw [hd] at h
    cases h

section Isolated

variable (hgo : p.keepGoing = true) (hinfo : p.settings.dumpInfo = true) {files : FileTree}
  {fs : List Function}
  (hspares : ∀ f ∈ fs, p.isSelected f = true → spares (p.dumped files f).2 = true)
include hinfo

/-- The functions that are skipped are those that are skipped alone. -/
theorem skipped_alone (f : Function) (hspares : p.isSelected f = true →
    (p.alone files f).skipped = []) :
    (p.alone files f).skipped = if !p.isSelected f then [f.name] else [] := by
  rcases hf : p.isSelected f with _ | _
  · rw [alone_of_skipped hinfo hf]
    rfl
  · exact hspares hf

include hgo hspares

/-- The entries of selected functions are those of all functions alone. -/
theorem entries_alone :
    ((fs.filter fun f => !p.isSelected f).map Function.name =
        fs.flatMap fun f => (p.alone files f).skipped) ∧
      ((fs.filter p.isSelected).flatMap (fun f => writtenEntry f (p.dumped files f).2) =
        fs.flatMap fun f => (p.alone files f).written) ∧
      ((fs.filter p.isSelected).flatMap (fun f => failedEntry f (p.dumped files f).2) =
        fs.flatMap fun f => (p.alone files f).failed.map Prod.fst) := by
  refine ⟨?_, ?_, ?_⟩
  · rw [List.map_eq_flatMap]
    refine flatMap_filter_eq _ fun f hf => skipped_alone hinfo f fun hsel => ?_
    exact (alone_of_selected hgo hinfo hsel (hspares f hf hsel)).1
  · refine flatMap_filter_eq _ fun f hf => ?_
    rcases hsel : p.isSelected f with _ | _
    · rw [alone_of_skipped hinfo hsel]
      rfl
    · exact (alone_of_selected hgo hinfo hsel (hspares f hf hsel)).2.1
  · refine flatMap_filter_eq _ fun f hf => ?_
    rcases hsel : p.isSelected f with _ | _
    · rw [alone_of_skipped hinfo hsel]
      rfl
    · exact (alone_of_selected hgo hinfo hsel (hspares f hf hsel)).2.2

/-- With different file names, each report that is written alone is there at the end. -/
theorem contents_of_steps {summary : Summary} {s' : Run}
    (hsteps : p.steps (fs.filter p.isSelected) { files := files, summary := summary } =
      (.ok (), s'))
    (hnames : ((fs.filter p.isSelected).map fun f => fileName f.path).Nodup)
    (hproper : ∀ f ∈ fs.filter p.isSelected, fileName f.path ≠ "." ∧ fileName f.path ≠ "..")
    {f : Function} (hf : f ∈ fs.filter p.isSelected) {path : Path}
    (hpath : (f.name, path) ∈ (p.alone files f).written) :
    path = p.settings.reportPath (fileName f.path) ∧
      ∃ r, ((p.analyze f).start files).1 = .ok r ∧
        s'.files.readBytes path = .ok (Utf8.encode (Dot.render p.settings r)) := by
  obtain ⟨hfs, hsel⟩ := List.mem_filter.mp hf
  have hwritten := (alone_of_selected hgo hinfo hsel (hspares f hfs hsel)).2.1
  have hdumped : (p.dumped files f).2 = .ok path := by
    rw [hwritten] at hpath
    rcases hr : (p.dumped files f).2 with e | q
    · rw [hr, writtenEntry] at hpath
      cases hpath
    · rw [hr, writtenEntry, List.mem_singleton, Prod.mk.injEq] at hpath
      rw [hpath.2]
  obtain ⟨before, after, hsplit⟩ := List.append_of_mem hf
  have hafter : ∀ g ∈ after, (fileName g.path ≠ "." ∧ fileName g.path ≠ "..") ∧
      fileName f.path ≠ fileName g.path := by
    intro g hg
    refine ⟨hproper g (by rw [hsplit]; simp [hg]), ?_⟩
    rw [hsplit, List.map_append, List.map_cons, List.nodup_append, List.nodup_cons] at hnames
    intro heq
    exact hnames.2.1.1 (heq ▸ List.mem_map_of_mem hg)
  refine ⟨path_of_dumped hdumped, ?_⟩
  rw [(p.analyze_yields files f).start.1]
  rw [hsplit] at hsteps
  exact readBytes_of_steps hgo (Resembles.refl files) hsteps hdumped (hproper f hf) hafter

end Isolated

/-- **Functions do not disturb each other.**  A run that keeps going ends well just when no
selected function fails, alone on the files of the start, in a way that ends all.  Then each
function has become what it becomes alone, and only the reports of selected functions and their
temporary files have changed. -/
theorem run_isolated (hgo : p.keepGoing = true) (hinfo : p.settings.dumpInfo = true)
    (files : FileTree) (fs : List Function) :
    (((p.run fs).start { files := files }).1 = .ok () ↔
      ∀ f ∈ fs, p.isSelected f = true →
        ∀ e, ((p.dump f).start files).1 = .error e → e.isRecoverable = true) ∧
    (((p.run fs).start { files := files }).1 = .ok () →
      p.IsIsolated files fs ((p.run fs).start { files := files }).2.state) := by
  obtain ⟨r, s', hsteps, hdiffers, hcases⟩ := steps_settles hgo (fs.filter p.isSelected)
    (s := { files := files, summary := p.skipping fs {} }) (Resembles.refl files)
  obtain ⟨hresult, hstate⟩ := (run_yields hinfo (s := { files := files }) hsteps).start
  have hspares : ∀ f, (∀ e, ((p.dump f).start files).1 = .error e → e.isRecoverable = true) ↔
      spares (p.dumped files f).2 = true := by
    intro f
    rw [dump_start, spares_eq_true_iff]
  simp only [hspares]
  rw [hresult, hstate]
  rcases hcases with ⟨hall, rfl, hsettles⟩ | ⟨⟨g, hg, hnot⟩, e, rfl⟩
  · -- The run has ended well: what it has settled is what the functions are alone.
    have hselected : ∀ f ∈ fs, p.isSelected f = true → spares (p.dumped files f).2 = true :=
      fun f hf hsel => hall f (List.mem_filter.mpr ⟨hf, hsel⟩)
    refine ⟨⟨fun _ => hselected, fun _ => rfl⟩, fun _ => ?_⟩
    obtain ⟨hskipped, hwritten, hfailed⟩ := entries_alone hgo hinfo hselected
    exact
      { skipped := hsettles.skipped.trans hskipped
        written := hsettles.written.trans hwritten
        failed := hsettles.failed.trans hfailed
        entry := fun f hf => isEntryOf_alone hgo hinfo (hselected f hf)
        skipped_iff := fun f hf => by
          rw [← isSelected_eq_false_iff, skipped_alone hinfo f fun hsel =>
            (alone_of_selected hgo hinfo hsel (hselected f hf hsel)).1]
          rcases p.isSelected f with _ | _ <;> simp
        unchanged := fun k hk => hdiffers.same k fun hmem => by
          obtain ⟨f, hf, hmem⟩ := List.mem_flatMap.mp hmem
          obtain ⟨hfs, hsel⟩ := List.mem_filter.mp hf
          exact not_mem_reportKeys (hk f hfs hsel).1 (hk f hfs hsel).2 hmem
        contents := fun hnames hproper f hf path hpath =>
          contents_of_steps hgo hinfo hselected hsteps hnames hproper hf hpath }
  · refine ⟨⟨fun h => ?_, fun h => ?_⟩, fun h => ?_⟩
    · cases h
    · obtain ⟨hgfs, hgsel⟩ := List.mem_filter.mp hg
      rw [h g hgfs hgsel] at hnot
      cases hnot
    · cases h

/-- Facts and a listing for one function, with an old report and a temporary file that was left
over. -/
def sourceFiles : FileTree :=
  ⟨[(⟨.working, ["nll-facts"]⟩, .directory),
    (⟨.working, ["nll-facts", "main"]⟩, .directory),
    (⟨.working, ["nll-facts", "main", "borrow_region.facts"]⟩, .file []),
    (⟨.working, ["nll-facts", "main", "outlives.facts"]⟩, .file []),
    (⟨.working, ["nll-facts", "main", "region_live_at.facts"]⟩, .file []),
    (⟨.working, ["nll-facts", "main", "graph.dot"]⟩, .file [0x6f, 0x6c, 0x64]),
    (⟨.working, ["nll-facts", "main", "graph.dot.tmp"]⟩, .file [0x6f]),
    (⟨.working, ["log"]⟩, .directory),
    (⟨.working, ["log", "mir"]⟩, .directory),
    (⟨.working, ["log", "mir", "rustc.main.-------.renumber.0.mir"]⟩, .file [])]⟩

/-- A specification, a function without facts, and one that can be reported. -/
def mixedFunctions : List Function :=
  [{ name := "main__spec", path := "krate::main__spec", body := {} },
    { name := "lost", path := "krate::lost", body := {} },
    { name := "main", path := "krate::main",
      body := { blocks := [⟨0, [], some { kind := .return }⟩] } }]

def patientPipeline : Pipeline :=
  { settings := {}, keepGoing := true }

theorem spares_mixedFunctions :
    ∀ f ∈ mixedFunctions, spares (patientPipeline.dumped sourceFiles f).2 = true := by
  rw [mixedFunctions]
  refine List.forall_mem_cons.mpr
    ⟨?_, List.forall_mem_cons.mpr ⟨?_, List.forall_mem_singleton.mpr ?_⟩⟩
  · decide +kernel
  · decide +kernel
  · decide +kernel

theorem mixedFunctions_isolated :
    patientPipeline.keepGoing = true ∧ patientPipeline.settings.dumpInfo = true ∧
      ((patientPipeline.run mixedFunctions).start { files := sourceFiles }).1 = .ok () ∧
      patientPipeline.IsIsolated sourceFiles mixedFunctions
        ((patientPipeline.run mixedFunctions).start { files := sourceFiles }).2.state := by
  obtain ⟨hiff, hisolated⟩ :=
    run_isolated (p := patientPipeline) rfl rfl sourceFiles mixedFunctions
  have hok := hiff.mpr fun f hf _ e he => by
    rw [dump_start] at he
    exact spares_eq_true_iff.mp (spares_mixedFunctions f hf) e he
  exact ⟨rfl, rfl, hok, hisolated hok⟩

end Pipeline
end BorrowGraph
