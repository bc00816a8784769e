/-
Stopping at the first failure.

A run that does not keep going does what a run that keeps going does, up to the first function
that fails:

* `steps_of_reports`, `dumpEach_run_eq`: as long as no function fails, both do the same, their
  logs included;
* `step_of_not_reports`: at the first failure both leave the same files, and only one of them
  goes on;
* `report_exit`: what follows then cannot make the exit code smaller;
* `run_failFast`: two runs of the command line that differ in this option only, whatever the
  library is that their settings are made with.
-/
import BorrowGraph.CommandLine.Session
import BorrowGraph.Proofs.Isolation
import BorrowGraph.Proofs.KeepGoing
import BorrowGraph.Settings.Standard

namespace BorrowGraph

open FileTree

/-! ### Pipelines that differ in whether they keep going -/

namespace Pipeline

variable {p : Pipeline}

/-- The same pipeline, which keeps going. -/
def patient (p : Pipeline) : Pipeline :=
  { p with keepGoing := true }

theorem patient_select (p : Pipeline) (fs : List Function) : p.patient.select fs = p.select fs := by
  induction fs with
  | nil => rfl
  | cons f fs ih =>
    rw [select, select, ih]
    rfl

/-- A function can be reported, alone on some files. -/
def Reports (p : Pipeline) (files : FileTree) (f : Function) : Prop :=
  ∃ path, ((p.dump f).start files).1 = .ok path

/-- The state of a run after it has selected functions and dealt with some of them. -/
def stateAfter (p : Pipeline) (files : FileTree) (functions done : List Function) : Run :=
  ((p.select functions >>= fun _ => p.dumpEach done).start { files := files }).2.state

theorem stateAfter_eq {files : FileTree} {functions done : List Function} {r : Except Failure Unit}
    {s' : Run}
    (h : p.steps done { files := files, summary := p.skipping functions {} } = (r, s')) :
    p.stateAfter files functions done = s' := by
  have hyields : (p.select functions >>= fun _ => p.dumpEach done).Yields { files := files } r s' :=
    (p.select_yields functions _).bind (dumpEach_yields h)
  exact hyields.start.2

/-- Dealing with functions is dealing with the first ones and then with the others. -/
theorem dumpEach_append (p : Pipeline) (fs gs : List Function) :
    p.dumpEach (fs ++ gs) = p.dumpEach fs >>= fun _ => p.dumpEach gs := by
  induction fs with
  | nil =>
    rw [List.nil_append, dumpEach, pure_bind]
  | cons f fs ih =>
    rw [List.cons_append, dumpEach, dumpEach, ih]
    simp only [bind_assoc]

section Reports

variable {files : FileTree} {s : Run} (h : files.Resembles s.files)
include h

/-- A function that can be reported alone is reported in a run. -/
theorem dumped_of_reports {f : Function} (hf : p.Reports files f) :
    ∃ t, p.dumped s.files f = (t, .ok (p.settings.reportPath (fileName f.path))) ∧
      files.Resembles t ∧ s.files.DiffersAt t (p.reportKeys files f) := by
  obtain ⟨path, hpath⟩ := hf
  rw [dump_start] at hpath
  have hpath' := (dumped_same h).ok hpath
  have hdiffers := p.dumped_differsAt s.files f
  have hresembles := p.dumped_resembles s.files f
  rw [reportKeys_eq h.directories] at hdiffers
  rcases hd : p.dumped s.files f with ⟨t, r⟩
  rw [hd] at hpath' hdiffers hresembles
  obtain rfl : r = .ok path := hpath'
  rw [← path_of_dumped hpath]
  exact ⟨t, rfl, h.trans hresembles, hdiffers⟩

/-- A function that cannot be reported alone fails in a run, and changes at most its temporary
file. -/
theorem dumped_of_not_reports {f : Function} (hf : ¬ p.Reports files f) :
    ∃ t e, p.dumped s.files f = (t, .error e) ∧
      s.files.DiffersAt t (files.locatedKeys [(p.directoryOf f).below "graph.dot.tmp"]) := by
  rw [← locatedKeys_eq h.directories]
  rcases p.dumped_cases s.files f with ⟨e, -, hd⟩ | ⟨r, k, t, -, -, -, hd, -⟩ |
    ⟨r, k, t, d, -, -, -, hd, -, hdiffers⟩
  · exact ⟨s.files, e, hd, DiffersAt.refl _ _⟩
  · refine absurd ⟨p.settings.reportPath (fileName f.path), ?_⟩ hf
    have hsame : SameOutcome (p.dumped files f).2 (p.dumped s.files f).2 := dumped_same h
    rw [hd] at hsame
    rw [dump_start]
    exact hsame.symm.ok rfl
  · exact ⟨t, _, hd, hdiffers⟩

end Reports

/-- As long as no function fails it does not matter whether the run keeps going. -/
theorem steps_of_reports {files : FileTree} (fs : List Function) {s : Run}
    (h : files.Resembles s.files) (hall : ∀ f ∈ fs, p.Reports files f) :
    ∃ s', p.steps fs s = (.ok (), s') ∧ p.patient.steps fs s = (.ok (), s') ∧
      files.Resembles s'.files ∧ s.files.DiffersAt s'.files (fs.flatMap (p.reportKeys files)) ∧
      s'.summary.written = s.summary.written ++
        fs.map fun f => (f.name, p.settings.reportPath (fileName f.path)) := by
  induction fs generalizing s with
  | nil => exact ⟨s, rfl, rfl, h, DiffersAt.refl _ _, (List.append_nil _).symm⟩
  | cons f fs ih =>
    rw [List.forall_mem_cons] at hall
    obtain ⟨t, hd, hresembles, hdiffers⟩ := dumped_of_reports h hall.1
    obtain ⟨s', hsteps, hpatient, hresembles', hdiffers', hwritten⟩ :=
      ih (s := ⟨t, s.summary.addWritten f.name (p.settings.reportPath (fileName f.path))⟩)
        hresembles hall.2
    refine ⟨s', ?_, ?_, hresembles', ?_, ?_⟩
    · rw [steps, step, hd, enter, andThen, hsteps]
    · have hd' : p.patient.dumped s.files f =
          (t, .ok (p.settings.reportPath (fileName f.path))) := hd
      rw [steps, step, hd', enter, andThen, hpatient]
    · rw [List.flatMap_cons]
      exact hdiffers.trans hdiffers'
    · rw [hwritten, List.map_cons, Summary.addWritten, List.append_assoc]
      rfl

/-- What happens at the first failure: the run ends there, or it enters the failure and goes on. -/
theorem step_of_not_reports (hfast : p.keepGoing = false) {files : FileTree} {s : Run}
    (h : files.Resembles s.files) {f : Function} (hf : ¬ p.Reports files f) :
    ∃ t e, s.files.DiffersAt t (files.locatedKeys [(p.directoryOf f).below "graph.dot.tmp"]) ∧
      p.step f s = (.error e, ⟨t, s.summary⟩) ∧
      ((e.isRecoverable = true ∧
          ∃ d, p.patient.step f s = (.ok (), ⟨t, s.summary.addFailed f.name d⟩)) ∨
        (e.isRecoverable = false ∧ p.patient.step f s = (.error e, ⟨t, s.summary⟩))) := by
  obtain ⟨t, e, hd, hdiffers⟩ := dumped_of_not_reports h hf
  have hd' : p.patient.dumped s.files f = (t, .error e) := hd
  refine ⟨t, e, hdiffers, ?_, ?_⟩
  · rw [step, hd]
    cases e with
    | diagnostic d => rw [enter, hfast, Bool.and_false, if_neg (by simp)]
    | fault e => rfl
  · rw [step, hd']
    cases e with
    | diagnostic d =>
      rcases hr : d.kind.isRecoverable with _ | _
      · refine .inr ⟨hr, ?_⟩
        rw [enter, hr, Bool.false_and, if_neg (by simp)]
      · refine .inl ⟨hr, d, ?_⟩
        rw [enter, hr, patient, Bool.true_and, if_pos rfl]
    | fault e => exact .inr ⟨rfl, rfl⟩

/-! ### Written reports -/

/-- The path of each function holds the report of one of them, alone on some files. -/
def HoldsReports (p : Pipeline) (files : FileTree) (fs : List Function) (t : FileTree) : Prop :=
  ∀ f ∈ fs, ∃ g ∈ fs, files.locate (p.settings.reportPath (fileName g.path)) =
      files.locate (p.settings.reportPath (fileName f.path)) ∧
    ∃ r, p.reportOf files g = .ok r ∧
      t.readBytes (p.settings.reportPath (fileName f.path)) =
        .ok (Utf8.encode (Dot.render p.settings r))

/-- A file that is not among those that differ reads as before. -/
theorem readBytes_of_differsAt {t t' : FileTree} {keys : List Key} (h : t.DiffersAt t' keys)
    {path : Path} (hpath : ∀ k, t.locate path = .ok k → k ∉ keys) {content : List UInt8}
    (hcontent : t.readBytes path = .ok content) : t'.readBytes path = .ok content := by
  obtain ⟨hnull, k, hk, hnode⟩ := readBytes_eq_ok.mp hcontent
  refine readBytes_eq_ok.mpr ⟨hnull, k, (locate_sameFound h.directories _).ok hk, ?_⟩
  rw [h.same k (hpath k hk), hnode]

/-- The key of a report does not end as that of a temporary file. -/
theorem not_mem_temporary {files : FileTree} {g : Function} {k : Key}
    (hk : files.locate (p.settings.reportPath (fileName g.path)) = .ok k) (f : Function) :
    k ∉ files.locatedKeys [(p.directoryOf f).below "graph.dot.tmp"] := by
  intro hmem
  obtain ⟨q, hq, hlocated⟩ := mem_locatedKeys.mp hmem
  rw [List.mem_singleton] at hq
  subst hq
  have htemporary := getLast?_of_locate_below hlocated (by decide)
  rw [Settings.reportPath_eq] at hk
  rw [getLast?_of_locate_below hk (by decide)] at htemporary
  exact absurd htemporary (by decide)

section HoldsReports

variable {files t t' : FileTree} (h : files.Resembles t) {f : Function}
include h

/-- One step: the new report is there, and so are the others. -/
theorem HoldsReports.concat {done : List Function} (hdone : p.HoldsReports files done t)
    (hd : p.dumped t f = (t', .ok (p.settings.reportPath (fileName f.path)))) :
    p.HoldsReports files (done ++ [f]) t' := by
  have hdiffers := p.dumped_differsAt t f
  rw [hd, reportKeys_eq h.directories] at hdiffers
  obtain ⟨r, hr, hcontent⟩ : ∃ r, p.reportOf files f = .ok r ∧
      t'.readBytes (p.settings.reportPath (fileName f.path)) =
        .ok (Utf8.encode (Dot.render p.settings r)) := by
    rcases p.dumped_cases t f with ⟨e, -, hd'⟩ | ⟨r, k, t₁, hr, hk, hw, hd', hfile, -⟩ |
      ⟨r, k, t₁, d, -, -, -, hd', -⟩
    · rw [hd] at hd'
      cases hd'
    · rw [hd] at hd'
      obtain ⟨rfl, -⟩ := Prod.mk.inj hd'
      refine ⟨r, (reportOf_same h).symm.ok (drawableOf_eq_ok hr), ?_⟩
      rw [Settings.reportPath_eq]
      exact Report.readBytes_of_node (hk.of_sameDirectories hdiffers.directories) hw.short hfile
    · rw [hd] at hd'
      cases hd'
  intro g hg
  by_cases hlocate : files.locate (p.settings.reportPath (fileName f.path)) =
      files.locate (p.settings.reportPath (fileName g.path))
  · refine ⟨f, List.mem_concat_self, hlocate, r, hr, ?_⟩
    rcases List.mem_append.mp hg with hg | hg
    · -- Both paths lead to the same key.
      obtain ⟨_, -, -, _, -, hold⟩ := hdone g hg
      obtain ⟨hnull, kg, hkg, -⟩ := readBytes_eq_ok.mp hold
      obtain ⟨-, k, hk, hnode⟩ := readBytes_eq_ok.mp hcontent
      have hkf := (locate_sameFound (fun k => (hdiffers.directories k).symm) _).ok hk
      have hkf' := (locate_sameFound h.directories.symm _).ok hkf
      rw [hlocate] at hkf'
      have hkg' := (locate_sameFound h.directories _).ok hkf'
      exact readBytes_eq_ok.mpr
        ⟨hnull, k, (locate_sameFound hdiffers.directories _).ok hkg', hnode⟩
    · rw [List.mem_singleton.mp hg]
      exact hcontent
  · rcases List.mem_append.mp hg with hg | hg
    · obtain ⟨g', hg', hsame, r', hr', hold⟩ := hdone g hg
      refine ⟨g', List.mem_append_left _ hg', hsame, r', hr',
        readBytes_of_differsAt hdiffers (fun k hk hmem => ?_) hold⟩
      have hkg := (locate_sameFound h.directories.symm _).ok hk
      obtain ⟨q, hq, hlocated⟩ := mem_locatedKeys.mp hmem
      rcases List.mem_pair.mp hq with rfl | rfl
      · rw [hkg, Settings.reportPath_eq] at hlocate
        exact hlocate hlocated
      · exact not_mem_temporary hkg f
          (mem_locatedKeys.mpr ⟨_, List.mem_singleton_self _, hlocated⟩)
    · rw [List.mem_singleton.mp hg] at hlocate
      exact absurd rfl hlocate

/-- The reports stay there if only a temporary file changes. -/
theorem HoldsReports.of_temporary {done : List Function} (hdone : p.HoldsReports files done t)
    (hdiffers : t.DiffersAt t' (files.locatedKeys [(p.directoryOf f).below "graph.dot.tmp"])) :
    p.HoldsReports files done t' := by
  intro g hg
  obtain ⟨g', hg', hsame, r, hr, hold⟩ := hdone g hg
  refine ⟨g', hg', hsame, r, hr, readBytes_of_differsAt hdiffers (fun k hk => ?_) hold⟩
  exact not_mem_temporary ((locate_sameFound h.directories.symm _).ok hk) f

end HoldsReports

/-- After functions that can be reported, their reports are there. -/
theorem holdsReports_of_steps {files : FileTree} (fs done : List Function)
    {s s' : Run} (h : files.Resembles s.files) (hall : ∀ f ∈ fs, p.Reports files f)
    (hdone : p.HoldsReports files done s.files) (hsteps : p.steps fs s = (.ok (), s')) :
    p.HoldsReports files (done ++ fs) s'.files := by
  induction fs generalizing s done with
  | nil =>
    obtain ⟨-, rfl⟩ := Prod.mk.inj hsteps
    rw [List.append_nil]
    exact hdone
  | cons f fs ih =>
    rw [List.forall_mem_cons] at hall
    obtain ⟨t, hd, hresembles, -⟩ := dumped_of_reports h hall.1
    rw [steps, step, hd, enter, andThen] at hsteps
    have hnext := ih _ (s := ⟨t, s.summary.addWritten f.name
      (p.settings.reportPath (fileName f.path))⟩) hresembles hall.2 (hdone.concat h hd) hsteps
    rw [List.append_assoc] at hnext
    exact hnext

/-! ### Logs -/

/-- As long as no function fails, both pipelines log the same, too. -/
theorem dumpEach_run_eq {files : FileTree} (fs : List Function) {s : Run}
    (h : files.Resembles s.files) (hall : ∀ f ∈ fs, p.Reports files f) (log : List LogEntry) :
    (p.dumpEach fs).run ⟨s, log⟩ = (p.patient.dumpEach fs).run ⟨s, log⟩ := by
  induction fs generalizing s log with
  | nil => rfl
  | cons f fs ih =>
    rw [List.forall_mem_cons] at hall
    obtain ⟨t, hd, hresembles, -⟩ := dumped_of_reports h hall.1
    obtain ⟨log', hrun⟩ := outcome_yields hd log
    have hrun' : (Task.outcome (onFiles (p.patient.dump f))).run ⟨s, log⟩ = _ := hrun
    rw [dumpEach, dumpEach, Task.run_bind, Task.run_bind, hrun, hrun']
    simp only [settle]
    -- Both enter the report into the summary, in the same way.
    obtain ⟨log'', hsummary⟩ := summarize_yields
      (fun s => s.addWritten f.name (p.settings.reportPath (fileName f.path)))
      { s with files := t } log'
    rw [Task.run_bind, Task.run_bind, hsummary]
    exact ih (s := ⟨t, s.summary.addWritten f.name (p.settings.reportPath (fileName f.path))⟩)
      hresembles hall.2 log''

theorem run_start_eq {files : FileTree} {fs : List Function}
    (hall : p.settings.dumpInfo = true → ∀ f ∈ fs.filter p.isSelected, p.Reports files f) :
    (p.run fs).start { files := files } = (p.patient.run fs).start { files := files } := by
  obtain ⟨log, hselect⟩ := p.select_yields fs { files := files } []
  rw [Task.start, Task.start, run, run, Task.run_bind, Task.run_bind, patient_select, hselect]
  simp only [dumpAll]
  rcases hinfo : p.settings.dumpInfo with _ | _
  · rw [if_neg (by simp), if_neg (by simp [patient, hinfo])]
  · rw [if_pos rfl, if_pos (by simp [patient, hinfo])]
    exact dumpEach_run_eq _ (Resembles.refl files) (hall hinfo) log

/-! ### The first failure -/

/-- What a run that stops at a failure has done, next to one that keeps going. -/
structure StopsAt (p : Pipeline) (files : FileTree) (functions before : List Function)
    (f : Function)
    (after : List Function) (plain going : FileTree) : Prop where
  /-- It leaves the files that the other run has when it has dealt with that function. -/
  files_eq : plain = (p.patient.stateAfter files functions (before ++ [f])).files
  /-- The other run goes on from there. -/
  goesOn : p.patient.dumpEach (before ++ f :: after) =
    p.patient.dumpEach (before ++ [f]) >>= fun _ => p.patient.dumpEach after
  going_eq : going = (p.patient.stateAfter files functions (before ++ f :: after)).files
  /-- Both have written the reports of the functions before it. -/
  written : ((p.run functions).start { files := files }).2.state.summary.written =
    before.map fun g => (g.name, p.settings.reportPath (fileName g.path))
  writtenThen : (p.patient.stateAfter files functions (before ++ [f])).summary.written =
    before.map fun g => (g.name, p.settings.reportPath (fileName g.path))
  holds : p.HoldsReports files before plain
  /-- Nothing has changed but these reports, and temporary files. -/
  unchanged : ∀ k, (∀ g ∈ before,
      files.locate (p.settings.reportPath (fileName g.path)) ≠ .ok k ∧
      files.locate ((p.settings.reportPath (fileName g.path)).addSuffix "graph.dot" ".tmp") ≠
        .ok k) →
    files.locate ((p.settings.reportPath (fileName f.path)).addSuffix "graph.dot" ".tmp") ≠ .ok k →
    plain.node? k = files.node? k

/-- All functions can be reported, or there is a first one that cannot. -/
theorem exists_first (p : Pipeline) (files : FileTree) (fs : List Function) :
    (∀ f ∈ fs, p.Reports files f) ∨ ∃ before f after, fs = before ++ f :: after ∧
      (∀ g ∈ before, p.Reports files g) ∧ ¬ p.Reports files f := by
  induction fs with
  | nil => exact .inl (by simp)
  | cons f fs ih =>
    by_cases hf : p.Reports files f
    · rcases ih with hall | ⟨before, g, after, rfl, hbefore, hg⟩
      · exact .inl (List.forall_mem_cons.mpr ⟨hf, hall⟩)
      · exact .inr ⟨f :: before, g, after, rfl, List.forall_mem_cons.mpr ⟨hf, hbefore⟩, hg⟩
    · exact .inr ⟨[], f, fs, rfl, by simp, hf⟩

section First

variable {files : FileTree} {fs before after : List Function} {f : Function}
  (hbefore : ∀ g ∈ before, p.Reports files g)
include hbefore

/-- What the state after the functions before it and the step for it say about the whole runs. -/
theorem stopsAt_of_steps (hinfo : p.settings.dumpInfo = true)
    (hsplit : fs.filter p.isSelected = before ++ f :: after) {t : FileTree} {e : Failure}
    {s₁ s₂ s₃ : Run} {r₂ r₃ : Except Failure Unit}
    (hsteps : p.steps before { files := files, summary := p.skipping fs {} } = (.ok (), s₁))
    (hstep : p.step f s₁ = (.error e, ⟨t, s₁.summary⟩))
    (hthen : p.patient.steps (before ++ [f]) { files := files, summary := p.skipping fs {} } =
      (r₂, s₂))
    (hend : p.patient.steps (before ++ f :: after) { files := files, summary := p.skipping fs {} } =
      (r₃, s₃))
    (hfiles : s₂.files = t) (hwritten₂ : s₂.summary.written = s₁.summary.written)
    (hdiffers : s₁.files.DiffersAt t
      (files.locatedKeys [(p.directoryOf f).below "graph.dot.tmp"])) :
    (p.run fs).Yields { files := files } (.error e) ⟨t, s₁.summary⟩ ∧
      p.StopsAt files fs before f after t s₃.files := by
  obtain ⟨s, hsteps', -, hresembles, hdiffers₁, hwritten⟩ := steps_of_reports before
    (s := { files := files, summary := p.skipping fs {} }) (Resembles.refl files) hbefore
  obtain rfl : s₁ = s := (Prod.mk.inj (hsteps.symm.trans hsteps')).2
  have hplain : p.steps (fs.filter p.isSelected) { files := files, summary := p.skipping fs {} } =
      (.error e, ⟨t, s₁.summary⟩) := by
    rw [hsplit, steps_append, hsteps, andThen, steps, hstep, andThen]
  have hrun : (p.run fs).Yields { files := files } (.error e) ⟨t, s₁.summary⟩ :=
    run_yields hinfo hplain
  have hstate : p.patient.stateAfter files fs (before ++ [f]) = s₂ := stateAfter_eq hthen
  refine ⟨hrun, ?_, ?_, ?_, ?_, ?_, ?_, ?_⟩
  · rw [hstate, hfiles]
  · rw [List.append_cons, dumpEach_append]
  · rw [stateAfter_eq (p := p.patient) hend]
  · rw [hrun.start.2, hwritten]
    rfl
  · rw [hstate, hwritten₂, hwritten]
    rfl
  · have hholds := holdsReports_of_steps before [] (Resembles.refl files) hbefore
      (by simp [HoldsReports]) hsteps
    exact hholds.of_temporary hresembles hdiffers
  · intro k hk htemporary
    refine (hdiffers₁.trans hdiffers).same k fun hmem => ?_
    rcases List.mem_append.mp hmem with hmem | hmem
    · obtain ⟨g, hg, hmem⟩ := List.mem_flatMap.mp hmem
      exact not_mem_reportKeys (hk g hg).1 (hk g hg).2 hmem
    · obtain ⟨q, hq, hlocated⟩ := mem_locatedKeys.mp hmem
      rw [List.mem_singleton.mp hq, ← temporary_eq] at hlocated
      exact htemporary hlocated

/-- At the first failure one run ends.  The other ends with the same failure, or it goes on and
then fails or has an entry for it. -/
theorem run_of_first (hfast : p.keepGoing = false) (hinfo : p.settings.dumpInfo = true)
    (hsplit : fs.filter p.isSelected = before ++ f :: after) (hf : ¬ p.Reports files f) :
    ∃ e s r s', (p.run fs).Yields { files := files } (.error e) s ∧
      (p.patient.run fs).Yields { files := files } r s' ∧
      p.StopsAt files fs before f after s.files s'.files ∧
      (r = .error e ∨ e.isRecoverable = true ∧
        ((∃ e', r = .error e') ∨ r = .ok () ∧ s'.summary.failed ≠ [])) := by
  obtain ⟨s₁, hsteps, hpatient, hresembles, -, -⟩ := steps_of_reports before
    (s := { files := files, summary := p.skipping fs {} }) (Resembles.refl files) hbefore
  obtain ⟨t, e, hdiffers, hstep, hcases⟩ := step_of_not_reports hfast hresembles hf
  have hgoing : ∀ {r s'}, p.patient.steps (before ++ f :: after)
      { files := files, summary := p.skipping fs {} } = (r, s') →
      (p.patient.run fs).Yields { files := files } r s' := fun h =>
    run_yields (p := p.patient) hinfo (hsplit ▸ h)
  rcases hcases with ⟨he, d, hstep'⟩ | ⟨he, hstep'⟩
  · -- The failure is entered, and the entry stays.
    have hthen : p.patient.steps (before ++ [f]) { files := files, summary := p.skipping fs {} } =
        (.ok (), ⟨t, s₁.summary.addFailed f.name d⟩) := by
      rw [steps_append, hpatient, andThen, steps, hstep', andThen, steps]
    have hresembles' : files.Resembles t := hresembles.trans (hdiffers.resembles fun k hk =>
      isReport_of_mem_reportKeys (p.locatedKeys_subset_reportKeys files f hk))
    obtain ⟨r, s', hafter, -, hafter'⟩ := steps_settles (p := p.patient) rfl after
      (s := ⟨t, s₁.summary.addFailed f.name d⟩) hresembles'
    have hend : p.patient.steps (before ++ f :: after)
        { files := files, summary := p.skipping fs {} } = (r, s') := by
      rw [List.append_cons, steps_append, hthen, andThen, hafter]
    obtain ⟨hrun, hstops⟩ :=
      stopsAt_of_steps hbefore hinfo hsplit hsteps hstep hthen hend rfl rfl hdiffers
    refine ⟨e, _, r, s', hrun, hgoing hend, hstops, .inr ⟨he, ?_⟩⟩
    rcases hafter' with ⟨-, hr, hsettles⟩ | ⟨-, hr⟩
    · refine .inr ⟨hr, fun hnil => ?_⟩
      have hfailed := hsettles.failed
      rw [hnil] at hfailed
      simp [Summary.addFailed] at hfailed
    · exact .inl hr
  · -- The failure ends both runs, whatever comes next.
    have hthen : ∀ gs, p.patient.steps (before ++ f :: gs)
        { files := files, summary := p.skipping fs {} } = (.error e, ⟨t, s₁.summary⟩) := by
      intro gs
      rw [steps_append, hpatient, andThen, steps, hstep', andThen]
    obtain ⟨hrun, hstops⟩ :=
      stopsAt_of_steps hbefore hinfo hsplit hsteps hstep (hthen []) (hthen after) rfl rfl hdiffers
    exact ⟨e, _, .error e, _, hrun, hgoing (hthen after), hstops, .inl rfl⟩

end First

end Pipeline

/-! ### Sessions -/

namespace CommandLine

variable {lib : Settings.Library} {a : Arguments} {w : Settings.Surroundings} {settings : Settings}
  {functions : List Function} {renderer : Renderer}

/-- The arguments, files and environment lead to functions that are to be reported. -/
structure Arguments.Reaches (a : Arguments) (lib : Settings.Library) (w : Settings.Surroundings)
    (settings : Settings) (functions : List Function) : Prop where
  settings : ((a.loadSettings lib w).start ()).1 = .ok settings
  reports : a.printConfig = false
  bundles : a.bundles.isEmpty = false
  functions : ((loadBundles w.files a.bundles).start ()).1 = .ok functions

theorem loadSettings_going (a : Arguments) (lib : Settings.Library) (w : Settings.Surroundings) :
    a.going.loadSettings lib w = a.loadSettings lib w := by
  rw [Arguments.loadSettings, Arguments.loadSettings]
  rfl

theorem Arguments.Reaches.unique {settings' : Settings} {functions' : List Function}
    (h : a.Reaches lib w settings functions) (h' : a.Reaches lib w settings' functions') :
    settings = settings' ∧ functions = functions' :=
  ⟨Except.ok.inj (h.settings.symm.trans h'.settings),
    Except.ok.inj (h.functions.symm.trans h'.functions)⟩

/-- Loading the bundles does not depend on whether the run keeps going. -/
theorem reportBundles_cases {s : Session}
    (h : ((a.loadSettings lib w).start ()).1 = .ok settings ∧ a.printConfig = false ∧
      a.bundles.isEmpty = false) (hs : s.files = w.files) :
    (reportBundles a settings renderer s = reportBundles a.going settings renderer s ∧
      ∀ settings functions, ¬ a.Reaches lib w settings functions) ∨
    ∃ settings' functions s', a.Reaches lib w settings' functions ∧ s'.files = w.files ∧
      reportBundles a settings renderer s = report a settings' renderer s' functions ∧
      reportBundles a.going settings renderer s =
        report a.going settings' renderer s' functions := by
  have hbundles : a.going.bundles = a.bundles := rfl
  rw [reportBundles, reportBundles, hbundles, hs]
  rcases hfunctions : (loadBundles w.files a.bundles).start () with ⟨(d | f) | functions, l⟩
  · refine .inl ⟨rfl, fun _ _ hreaches => ?_⟩
    have hok := hreaches.functions
    rw [hfunctions] at hok
    cases hok
  · refine .inl ⟨rfl, fun _ _ hreaches => ?_⟩
    have hok := hreaches.functions
    rw [hfunctions] at hok
    cases hok
  · exact .inr ⟨settings, functions, s.addLog l.log,
      ⟨h.1, h.2.1, h.2.2, by rw [hfunctions]⟩, hs, rfl, rfl⟩

/-- What is done once there are settings. -/
def configured (a : Arguments) (settings : Settings) (renderer : Renderer) (s : Session) :
    Session × Nat :=
  if a.printConfig then (s.add (.out (settings.text ++ "\n")), exitOk)
  else if a.bundles.isEmpty then (s.error "no MIR bundle given", exitUnusable)
  else reportBundles a settings renderer s

theorem configured_cases {s : Session} (h : ((a.loadSettings lib w).start ()).1 = .ok settings)
    (hs : s.files = w.files) :
    (configured a settings renderer s = configured a.going settings renderer s ∧
      ∀ settings functions, ¬ a.Reaches lib w settings functions) ∨
    ∃ settings' functions s', a.Reaches lib w settings' functions ∧ s'.files = w.files ∧
      configured a settings renderer s = report a settings' renderer s' functions ∧
      configured a.going settings renderer s =
        report a.going settings' renderer s' functions := by
  have hprint' : a.going.printConfig = a.printConfig := rfl
  have hbundles' : a.going.bundles = a.bundles := rfl
  rw [configured, configured, hprint', hbundles']
  rcases hprint : a.printConfig with _ | _
  · rcases hempty : a.bundles.isEmpty with _ | _
    · exact reportBundles_cases ⟨h, hprint, hempty⟩ hs
    · refine .inl ⟨by simp only [if_true], fun _ _ hreaches => ?_⟩
      rw [hreaches.bundles] at hempty
      cases hempty
  · refine .inl ⟨by simp only [if_true], fun _ _ hreaches => ?_⟩
    rw [hreaches.reports] at hprint
    cases hprint

/-- Two command lines that differ in whether they keep going do the same, up to reporting. -/
theorem execute_cases (lib : Settings.Library) (a : Arguments) (w : Settings.Surroundings)
    (renderer : Renderer) :
    (execute lib a w renderer = execute lib a.going w renderer ∧
      ∀ settings functions, ¬ a.Reaches lib w settings functions) ∨
    ∃ settings functions s, a.Reaches lib w settings functions ∧ s.files = w.files ∧
      execute lib a w renderer = report a settings renderer s functions ∧
      execute lib a.going w renderer = report a.going settings renderer s functions := by
  -- Nothing that is done before reporting looks at whether the run keeps going.
  rw [execute, execute, loadSettings_going]
  rcases hsettings : (a.loadSettings lib w).start () with ⟨(d | f) | settings, l⟩
  · refine .inl ⟨rfl, fun _ _ hreaches => ?_⟩
    have hok := hreaches.settings
    rw [hsettings] at hok
    cases hok
  · refine .inl ⟨rfl, fun _ _ hreaches => ?_⟩
    have hok := hreaches.settings
    rw [hsettings] at hok
    cases hok
  · refine configured_cases (by rw [hsettings]) ?_
    split <;> rfl

/-! ### Exit codes and files -/

/-- Rendering never makes the exit code smaller, and leaves the files as they are. -/
theorem renderEach_spec (format : String) (written : List (String × Path)) {s : Session}
    (exit : Nat) (outcomes : List Rendering) (hexit : exit ≤ exitFailed) :
    exit ≤ (renderEach format s exit outcomes written).2 ∧
      (renderEach format s exit outcomes written).1.files = s.files := by
  have hunusable : exit ≤ exitUnusable := hexit.trans (by decide)
  have hinterrupted : exit ≤ exitInterrupted := hexit.trans (by decide)
  induction written generalizing s exit outcomes with
  | nil => exact ⟨le_refl _, rfl⟩
  | cons x written ih =>
    obtain ⟨name, path⟩ := x
    rw [renderEach]
    split
    · exact ih _ _ hexit hunusable hinterrupted
    · exact ⟨hunusable, rfl⟩
    · -- The exit code is raised to that of a failure, and stays at least there.
      have hmax : max exit exitFailed = exitFailed := max_eq_right hexit
      rw [hmax]
      obtain ⟨hle, hfiles⟩ := ih exitFailed outcomes.tail
        (s := ({ s with rendered := s.rendered ++ [⟨"dot", format, path⟩] } : Session).error _)
        (le_refl _) (by decide) (by decide)
      exact ⟨hexit.trans hle, hfiles⟩
    · exact ⟨hinterrupted, rfl⟩
    · exact ⟨hunusable, rfl⟩
    · exact ⟨hunusable, rfl⟩

theorem renderAll_spec (a : Arguments) (renderer : Renderer) (s : Session) (exit : Nat)
    (written : List (String × Path)) (hexit : exit ≤ exitFailed) :
    exit ≤ (renderAll a renderer s exit written).2 ∧
      (renderAll a renderer s exit written).1.files = s.files := by
  have hunusable : exit ≤ exitUnusable := hexit.trans (by decide)
  rw [renderAll]
  split
  · exact ⟨le_refl _, rfl⟩
  · exact ⟨le_refl _, rfl⟩
  · split
    · exact ⟨le_refl _, rfl⟩
    · split
      · exact renderEach_spec _ _ _ _ hexit
      · exact ⟨hunusable, rfl⟩

/-- The exit code of a failure. -/
def exitOf (e : Failure) : Nat :=
  if e.isRecoverable then exitFailed else exitUnusable

/-- The pipeline of a command line. -/
def pipelineOf (a : Arguments) (settings : Settings) : Pipeline :=
  { settings := settings, keepGoing := a.keepGoing }

/-- What reporting ends with, by the result and the state of the pipeline. -/
theorem report_spec (a : Arguments) (settings : Settings) (renderer : Renderer) {s : Session}
    {result : Except Failure Unit} {l : Logged Run}
    (h : ((pipelineOf a settings).run functions).start { files := s.files } = (result, l)) :
    (report a settings renderer s functions).1.files = l.state.files ∧
      (∀ e, result = .error e → (report a settings renderer s functions).2 = exitOf e) ∧
      (result = .ok () → l.state.summary.failed ≠ [] →
        exitFailed ≤ (report a settings renderer s functions).2) := by
  rw [pipelineOf] at h
  rw [report, h]
  rcases result with (d | f) | _
  · refine ⟨rfl, fun e he => ?_, fun hok => by cases hok⟩
    cases he
    rfl
  · refine ⟨rfl, fun e he => ?_, fun hok => by cases hok⟩
    cases he
    rfl
  · have hrender := renderAll_spec a renderer
      (printSummary ({ s with files := l.state.files }.addLog l.log) l.state.summary)
      (if l.state.summary.ok then exitOk else exitFailed) l.state.summary.written
      (by split <;> decide)
    refine ⟨hrender.2, fun e he => (by cases he), fun _ hfailed => ?_⟩
    have hok : ¬ l.state.summary.ok = true := by
      simpa [Summary.ok] using hfailed
    have hle := hrender.1
    rw [if_neg hok] at hle
    simp only [if_neg hok]
    exact hle

/-- If both pipelines do the same, so do both command lines. -/
theorem report_eq_of_run_eq {s : Session}
    (h : ((pipelineOf a settings).run functions).start { files := s.files } =
      ((pipelineOf a.going settings).run functions).start { files := s.files }) :
    report a settings renderer s functions = report a.going settings renderer s functions := by
  rw [pipelineOf, pipelineOf] at h
  rw [report, report, h]
  rfl

/-- Reporting functions of which one fails. -/
theorem report_of_first (renderer : Renderer) {s : Session} (hfast : a.keepGoing = false)
    (hinfo : settings.dumpInfo = true) {before after : List Function} {f : Function}
    (hsplit : functions.filter (pipelineOf a settings).isSelected = before ++ f :: after)
    (hbefore : ∀ g ∈ before, (pipelineOf a settings).Reports s.files g)
    (hf : ¬ (pipelineOf a settings).Reports s.files f) :
    exitFailed ≤ (report a settings renderer s functions).2 ∧
      (report a settings renderer s functions).2 ≤
        (report a.going settings renderer s functions).2 ∧
      (pipelineOf a settings).StopsAt s.files functions before f after
        (report a settings renderer s functions).1.files
        (report a.going settings renderer s functions).1.files := by
  have hle : ∀ e, exitFailed ≤ exitOf e := by
    intro e
    rw [exitOf]
    split <;> decide
  obtain ⟨e, s₁, r, s₂, hplain, hgoing, hstops, hcases⟩ :=
    Pipeline.run_of_first hbefore hfast hinfo hsplit hf
  obtain ⟨log₁, hplain⟩ := hplain []
  obtain ⟨log₂, hgoing⟩ := hgoing []
  obtain ⟨hfiles₁, herror₁, -⟩ := report_spec a settings renderer hplain
  obtain ⟨hfiles₂, herror₂, hok₂⟩ := report_spec a.going settings renderer hgoing
  rw [hfiles₁, hfiles₂, herror₁ e rfl]
  refine ⟨hle e, ?_, hstops⟩
  -- A failure that can be skipped has the least exit code among those of failures.
  rcases hcases with rfl | ⟨he, ⟨e', rfl⟩ | ⟨rfl, hfailed⟩⟩
  · exact le_of_eq (herror₂ e rfl).symm
  · rw [herror₂ e' rfl, exitOf, if_pos he]
    exact hle e'
  · rw [exitOf, if_pos he]
    exact hok₂ rfl hfailed

/-- Going on after a failure does not make the exit code smaller, and a failure is never a
success. -/
theorem report_exit (hfast : a.keepGoing = false) (settings : Settings) (renderer : Renderer)
    (s : Session) (functions : List Function) :
    (report a settings renderer s functions).2 ≤ (report a.going settings renderer s functions).2 ∧
      ((report a settings renderer s functions).2 = exitOk ↔
        (report a.going settings renderer s functions).2 = exitOk) := by
  by_cases hall : settings.dumpInfo = true →
      ∀ f ∈ functions.filter (pipelineOf a settings).isSelected,
        (pipelineOf a settings).Reports s.files f
  · have heq : report a settings renderer s functions =
        report a.going settings renderer s functions :=
      report_eq_of_run_eq (Pipeline.run_start_eq hall)
    rw [heq]
    exact ⟨le_refl _, Iff.rfl⟩
  · rw [Classical.not_imp] at hall
    obtain ⟨hinfo, hsome⟩ := hall
    obtain ⟨before, f, after, hsplit, hbefore, hf⟩ :=
      ((pipelineOf a settings).exists_first s.files _).resolve_left hsome
    obtain ⟨hfailed, hle, -⟩ := report_of_first renderer hfast hinfo hsplit hbefore hf
    have hpos : ∀ n, exitFailed ≤ n → n ≠ exitOk := by
      intro n hn hzero
      rw [hzero] at hn
      exact absurd hn (by decide)
    exact ⟨hle, iff_of_false (hpos _ hfailed) (hpos _ (hfailed.trans hle))⟩

/-- **A run that stops at the first failure is the beginning of one that keeps going.**  Take
two command lines that differ in whether the run keeps going.  If no function fails they do the
same.  Otherwise, the one that stops has written the reports of the functions before the first
one that fails, and leaves the files as the other run has them at that moment.  Its exit code
is at most that of the other run, and one is that of a success if the other is. -/
theorem run_failFast (lib : Settings.Library) (w : Settings.Surroundings) (renderer : Renderer)
    {plain going : List String} {a : Arguments} (hplain : Arguments.read plain = .ok a)
    (hfast : a.keepGoing = false)
    (hgoing : Arguments.read going = .ok { a with keepGoing := true }) :
    Arguments.read ("--keep-going" :: plain) = .ok { a with keepGoing := true } ∧
    (run lib w renderer plain).2 ≤ (run lib w renderer going).2 ∧
    ((run lib w renderer plain).2 = exitOk ↔ (run lib w renderer going).2 = exitOk) ∧
    ((∀ settings functions, a.Reaches lib w settings functions → settings.dumpInfo = true →
        ∀ f ∈ functions.filter (pipelineOf a settings).isSelected,
          (pipelineOf a settings).Reports w.files f) →
      run lib w renderer plain = run lib w renderer going) ∧
    ∀ settings functions, a.Reaches lib w settings functions → settings.dumpInfo = true →
      ∀ before f after,
        functions.filter (pipelineOf a settings).isSelected = before ++ f :: after →
        (∀ g ∈ before, (pipelineOf a settings).Reports w.files g) →
        ¬ (pipelineOf a settings).Reports w.files f →
        (pipelineOf a settings).StopsAt w.files functions before f after
          (run lib w renderer plain).1.files (run lib w renderer going).1.files := by
  have hplain' : run lib w renderer plain = execute lib a w renderer := by rw [run, hplain]
  have hgoing' : run lib w renderer going = execute lib a.going w renderer := by
    rw [run, hgoing]
    rfl
  refine ⟨by rw [read_cons_keepGoing, hplain]; rfl, ?_⟩
  rw [hplain', hgoing']
  rcases execute_cases lib a w renderer with ⟨heq, hnone⟩ | ⟨settings, functions, s, h, hs, h₁, h₂⟩
  · rw [heq]
    exact ⟨le_refl _, Iff.rfl, fun _ => rfl,
      fun settings functions h => absurd h (hnone settings functions)⟩
  · rw [h₁, h₂, ← hs]
    obtain ⟨hle, hiff⟩ := report_exit hfast settings renderer s functions
    refine ⟨hle, hiff, fun hall => ?_, ?_⟩
    · exact report_eq_of_run_eq (Pipeline.run_start_eq (hall settings functions h))
    · intro settings' functions' h' hinfo before f after hsplit hbefore hf
      obtain ⟨rfl, rfl⟩ := h.unique h'
      exact (report_of_first renderer hfast hinfo hsplit hbefore hf).2.2

def mainFunction : Function :=
  { name := "main", path := "main", body := {} }

/-- A function without facts. -/
def lostFunction : Function :=
  { name := "lost", path := "lost", body := {} }

/-- A bundle of both functions, with the first one twice. -/
def someBundle : String :=
  "\x7b\"functions\":[\x7b\"name\":\"main\"\x7d,\x7b\"name\":\"lost\"\x7d,"
    ++ "\x7b\"name\":\"main\"\x7d]\x7d"

/-- The bundle, and facts and a listing for the first function. -/
def someSurroundings : Settings.Surroundings where
  files := ⟨(⟨.working, ["a.json"]⟩, .file (Utf8.encode someBundle)) ::
    Pipeline.sourceFiles.entries⟩
  environment := []

theorem reaches_someSurroundings :
    Arguments.Reaches { bundles := ["a.json"] } .standard someSurroundings {}
      [mainFunction, lostFunction, mainFunction] where
  settings := by decide +kernel
  reports := rfl
  bundles := rfl
  functions := by with_unfolding_all rfl

theorem reports_mainFunction :
    (pipelineOf { bundles := ["a.json"] } {}).Reports someSurroundings.files mainFunction := by
  refine ⟨Path.ofText "nll-facts/main/graph.dot", ?_⟩
  decide +kernel

theorem not_reports_lostFunction :
    ¬ (pipelineOf { bundles := ["a.json"] } {}).Reports someSurroundings.files lostFunction := by
  rintro ⟨path, hpath⟩
  have hfailed : (((pipelineOf { bundles := ["a.json"] } {}).dump lostFunction).start
      someSurroundings.files).1.isOk = false := by
    decide +kernel
  rw [hpath] at hfailed
  cases hfailed

theorem someSurroundings_failFast :
    Arguments.read ["a.json"] = .ok { bundles := ["a.json"] } ∧
      Arguments.read ["a.json", "--keep-going"] =
        .ok { bundles := ["a.json"], keepGoing := true } ∧
      (run .standard someSurroundings none ["a.json"]).2 ≤
        (run .standard someSurroundings none ["a.json", "--keep-going"]).2 ∧
      (pipelineOf { bundles := ["a.json"] } {}).StopsAt someSurroundings.files
        [mainFunction, lostFunction, mainFunction] [mainFunction] lostFunction [mainFunction]
        (run .standard someSurroundings none ["a.json"]).1.files
        (run .standard someSurroundings none ["a.json", "--keep-going"]).1.files := by
  have hplain : Arguments.read ["a.json"] = .ok { bundles := ["a.json"] } := by cbv
  have hgoing : Arguments.read ["a.json", "--keep-going"] =
      .ok { bundles := ["a.json"], keepGoing := true } := by cbv
  have hselected : [mainFunction, lostFunction, mainFunction].filter
      (pipelineOf { bundles := ["a.json"] } {}).isSelected =
      [mainFunction] ++ lostFunction :: [mainFunction] := by cbv
  obtain ⟨-, hle, -, -, hstops⟩ := run_failFast .standard someSurroundings none hplain rfl hgoing
  exact ⟨hplain, hgoing, hle, hstops {} _ reaches_someSurroundings rfl _ _ _ hselected
    (List.forall_mem_singleton.mpr reports_mainFunction) not_reports_lostFunction⟩

end CommandLine
end BorrowGraph
