/-
What the pipeline does, function by function.

The computations of the pipeline read files, keep a log and change a state.  Their results, and
the states that they leave, are given here by plain functions:

* `Owners.loadedFrom`, `FactStore.loadedFrom`, `Analysis.loadedFrom`: what is read from files;
* `Pipeline.reportOf`, `Pipeline.dumped`: the report of a function, and the files after it was
  written;
* `Pipeline.step`, `Pipeline.steps`: what becomes of one function, and of several in turn.

`Pipeline.run_yields` puts them together: a run skips the functions that are not selected and
takes the steps of the others.
-/
import BorrowGraph.Pipeline
import BorrowGraph.Proofs.AnalysisResult

namespace BorrowGraph

/-! ### Reading -/

namespace Owners

/-- The table that lines give. -/
def tableOf (lines : List (List Char)) : Except Failure Owners :=
  ((enterLines lines).start Owners.empty).1.map fun _ =>
    ((enterLines lines).start Owners.empty).2.state

/-- The table that the bytes of a listing give. -/
def tableOfBytes (path : Path) (bytes : List UInt8) : Except Failure Owners :=
  match Utf8.decodeChunks bytes with
  | (chars, none) => tableOf (Text.linesWithEnds (Text.unifyLineEnds chars))
  | (chars, some e) => do
    let _ ← tableOf (completeLines chars)
    .error (.diagnostic
      (listingDiagnostic path .malformedFact ("renumber MIR is not valid UTF-8: " ++ e.message)))

/-- The table that the listing at a path gives. -/
def loadedFrom (files : FileTree) (path : Path) : Except Failure Owners := do
  let bytes ← (files.readBytes path).mapError (listingFailure path)
  tableOfBytes path bytes

variable {σ : Type} (s : σ)

theorem readLines_yields (lines : List (List Char)) :
    (readLines lines : Task σ Owners).Yields s (tableOf lines) s := by
  have hwithin := Task.yields_within Owners.empty (enterLines lines) s
  rw [readLines, tableOf]
  rcases h : ((enterLines lines).start Owners.empty).1 with e | u
  · rw [h] at hwithin
    exact hwithin.bind_error
  · rw [h] at hwithin
    exact hwithin.bind (Task.yields_pure s _)

theorem readBytes_yields (path : Path) (bytes : List UInt8) :
    (readBytes path bytes : Task σ Owners).Yields s (tableOfBytes path bytes) s := by
  rw [readBytes, tableOfBytes]
  rcases Utf8.decodeChunks bytes with ⟨chars, _ | e⟩
  · exact readLines_yields s _
  · simp only
    have hlines := readLines_yields s (completeLines chars)
    rcases h : tableOf (completeLines chars) with e' | o
    · rw [h] at hlines
      exact hlines.bind_error
    · rw [h] at hlines
      exact hlines.bind (Task.yields_throw s _)

theorem load_yields (files : FileTree) (path : Path) :
    (load files path : Task σ Owners).Yields s (loadedFrom files path) s := by
  rw [load, loadedFrom]
  refine (Task.yields_note s _).bind ?_
  rcases (files.readBytes path).mapError (listingFailure path) with e | bytes
  · exact (Task.yields_ofExcept s _).bind_error
  · refine (Task.yields_ofExcept s _).bind ?_
    rw [ok_bind]
    have hbytes := readBytes_yields s path bytes
    rcases h : tableOfBytes path bytes with e | o
    · rw [h] at hbytes
      exact hbytes.bind_error
    · rw [h] at hbytes
      exact hbytes.bind ((Task.yields_note s _).bind (Task.yields_pure s o))

end Owners

namespace FactStore

/-- The facts of a directory. -/
def loadedFrom (files : FileTree) (directory : Path) : Except Failure FactStore :=
  ((load files directory).start {}).1.map fun _ => ((load files directory).start {}).2.state

/-- Reading a relation, by what there is at the path of its file. -/
theorem loadRelation_eq (files : FileTree) (directory : Path) (relation : Relation) :
    loadRelation files directory relation =
      match files.isThere (directory.child (fileOf relation)) with
      | .error f => throw (.fault f)
      | .ok true => loadFile files (directory.child (fileOf relation)) relation
      | .ok false =>
        if isRequired relation then
          Task.refuse (missingDiagnostic (directory.child (fileOf relation))
            ("missing relation file '" ++ fileOf relation ++ "'"))
        else
          Task.debug logSource
            ("Optional relation " ++ relation.name ++ " absent, treating as empty") := by
  rw [loadRelation]
  rcases files.isThere (directory.child (fileOf relation)) with f | _ | _
  · rfl
  · rfl
  · rfl

end FactStore

namespace Analysis

/-- The analysis of the facts in a directory, with the listing at a path. -/
def loadedFrom (files : FileTree) (body : Body) (factsPath listingPath : Path) (solver : Solver) :
    Except Failure Analysis := do
  let store ← FactStore.loadedFrom files factsPath
  let owners ← Owners.loadedFrom files listingPath
  resultOf body store owners solver

theorem load_yields {σ : Type} (s : σ) (files : FileTree) (body : Body)
    (factsPath listingPath : Path) (solver : Solver) :
    (load files body factsPath listingPath solver).Yields s
      (loadedFrom files body factsPath listingPath solver) s := by
  have hwithin := Task.yields_within ({} : FactStore) (FactStore.load files factsPath) s
  rw [load, loadedFrom, FactStore.loadedFrom]
  rcases h : ((FactStore.load files factsPath).start {}).1 with e | u
  · rw [h] at hwithin
    exact hwithin.bind_error
  · rw [h] at hwithin
    refine hwithin.bind ?_
    have howners := Owners.load_yields s files listingPath
    simp only [Except.map, ok_bind]
    rcases h : Owners.loadedFrom files listingPath with e | owners
    · rw [h] at howners
      exact howners.bind_error
    · rw [h] at howners
      exact howners.bind (ofFacts_yields body _ owners solver s)

end Analysis

/-! ### One function -/

namespace Pipeline

/-- The report of a function. -/
def reportOf (p : Pipeline) (files : FileTree) (f : Function) : Except Failure Report := do
  let a ← Analysis.loadedFrom files f.body (p.settings.factsPath (fileName f.path))
    (p.settings.listingPath (fileName f.path)) p.solver
  Report.build f.body a f.initialization f.name (fileName f.path)

/-- Write a report, if there is one. -/
def writeReport (settings : Settings) (files : FileTree) :
    Except Failure Report → FileTree × Except Failure Path
  | .error e => (files, .error e)
  | .ok r => Report.write files settings r (settings.reportPath r.path)

/-- The files after a function was reported, and where its report went. -/
def dumped (p : Pipeline) (files : FileTree) (f : Function) : FileTree × Except Failure Path :=
  writeReport p.settings files (p.reportOf files f)

/-- What a report, or the failure to make one, does to a run. -/
def enter (p : Pipeline) (f : Function) (summary : Summary) :
    FileTree × Except Failure Path → Except Failure Unit × Run
  | (files, .ok path) => (.ok (), ⟨files, summary.addWritten f.name path⟩)
  | (files, .error (.diagnostic d)) =>
    if d.kind.isRecoverable && p.keepGoing then (.ok (), ⟨files, summary.addFailed f.name d⟩)
    else (.error (.diagnostic d), ⟨files, summary⟩)
  | (files, .error e) => (.error e, ⟨files, summary⟩)

/-- What becomes of a function. -/
def step (p : Pipeline) (f : Function) (s : Run) : Except Failure Unit × Run :=
  p.enter f s.summary (p.dumped s.files f)

/-- Go on unless there was a failure. -/
def andThen (next : Run → Except Failure Unit × Run) :
    Except Failure Unit × Run → Except Failure Unit × Run
  | (.ok (), s) => next s
  | (.error e, s) => (.error e, s)

/-- What becomes of functions, one after the other. -/
def steps (p : Pipeline) : List Function → Run → Except Failure Unit × Run
  | [], s => (.ok (), s)
  | f :: fs, s => andThen (p.steps fs) (p.step f s)

variable (p : Pipeline)

theorem analyze_yields (files : FileTree) (f : Function) :
    (p.analyze f).Yields files (p.reportOf files f) files := by
  rw [analyze, reportOf]
  refine (Task.yields_note files _).bind ((Task.yields_getState files).bind ?_)
  have hload := Analysis.load_yields files files f.body (p.settings.factsPath (fileName f.path))
    (p.settings.listingPath (fileName f.path)) p.solver
  rcases h : Analysis.loadedFrom files f.body (p.settings.factsPath (fileName f.path))
    (p.settings.listingPath (fileName f.path)) p.solver with e | a
  · rw [h] at hload
    exact hload.bind_error
  · rw [h] at hload
    refine hload.bind ((Task.yields_note files _).bind ?_)
    rw [ok_bind, Report.make]
    rcases Report.build f.body a f.initialization f.name (fileName f.path) with e | r
    · exact (Task.yields_ofExcept files _).bind_error
    · exact (Task.yields_ofExcept files _).bind
        ((Task.yields_note files _).bind (Task.yields_pure files r))

theorem save_yields {s : Settings} {r : Report} {target : Path} {files files' : FileTree}
    {result : Except Failure Path} (h : Report.write files s r target = (files', result)) :
    (Report.save s r target).Yields files result files' := by
  rw [Report.save]
  refine (Task.yields_getState files).bind ?_
  rw [h]
  refine (Task.yields_setState files files').bind ?_
  rcases result with e | path
  · exact (Task.yields_ofExcept files' _).bind_error
  · exact (Task.yields_ofExcept files' _).bind
      ((Task.yields_note files' _).bind (Task.yields_pure files' path))

variable {p : Pipeline}

theorem dump_yields {files files' : FileTree} {f : Function} {result : Except Failure Path}
    (h : p.dumped files f = (files', result)) : (p.dump f).Yields files result files' := by
  have hreport := p.analyze_yields files f
  rw [dumped] at h
  rw [dump]
  refine (Task.yields_note files _).bind ?_
  rcases hr : p.reportOf files f with e | r
  · rw [hr] at h hreport
    obtain ⟨rfl, rfl⟩ := Prod.mk.inj h
    exact hreport.bind_error
  · rw [hr] at h hreport
    exact hreport.bind (save_yields h)

/-! ### Several functions -/

theorem summarize_yields (change : Summary → Summary) (s : Run) :
    (summarize change).Yields s (.ok ()) { s with summary := change s.summary } :=
  (Task.yields_getState s).bind (Task.yields_setState s _)

theorem outcome_yields {f : Function} {s : Run} {files : FileTree} {result : Except Failure Path}
    (h : p.dumped s.files f = (files, result)) :
    (Task.outcome (onFiles (p.dump f))).Yields s (.ok result) { s with files := files } := by
  have hdump := (dump_yields h).start
  have hpart := Task.yields_onPart Run.files (fun s files => { s with files := files }) (p.dump f) s
  rw [hdump.1, hdump.2] at hpart
  exact hpart.outcome

theorem step_yields {f : Function} {s s' : Run} {result : Except Failure Unit}
    (h : p.step f s = (result, s')) :
    (do p.settle f (← Task.outcome (onFiles (p.dump f))) : Task Run Unit).Yields s result s' := by
  rw [step] at h
  rcases hd : p.dumped s.files f with ⟨files, (d | e) | path⟩
  · refine (outcome_yields hd).bind ?_
    rw [hd, enter] at h
    rw [settle]
    split at h
    · rename_i hgo
      obtain ⟨rfl, rfl⟩ := Prod.mk.inj h
      rw [if_pos hgo]
      exact (Task.yields_note _ _).bind (summarize_yields _ _)
    · rename_i hgo
      obtain ⟨rfl, rfl⟩ := Prod.mk.inj h
      rw [if_neg hgo]
      exact Task.yields_throw _ _
  · refine (outcome_yields hd).bind ?_
    rw [hd] at h
    obtain ⟨rfl, rfl⟩ := Prod.mk.inj h
    exact Task.yields_throw _ _
  · refine (outcome_yields hd).bind ?_
    rw [hd] at h
    obtain ⟨rfl, rfl⟩ := Prod.mk.inj h
    rw [settle]
    exact summarize_yields (fun s => s.addWritten f.name path) _

theorem dumpEach_yields {fs : List Function} {s s' : Run} {result : Except Failure Unit}
    (h : p.steps fs s = (result, s')) : (p.dumpEach fs).Yields s result s' := by
  induction fs generalizing s with
  | nil =>
    obtain ⟨rfl, rfl⟩ := Prod.mk.inj h
    exact Task.yields_pure s ()
  | cons f fs ih =>
    have heq : p.dumpEach (f :: fs) =
        (do p.settle f (← Task.outcome (onFiles (p.dump f)))) >>= fun _ => p.dumpEach fs := by
      rw [dumpEach, bind_assoc]
    rw [heq]
    rw [steps] at h
    rcases hf : p.step f s with ⟨e | _, s₁⟩
    · rw [hf] at h
      obtain ⟨rfl, rfl⟩ := Prod.mk.inj h
      exact (step_yields hf).bind_error
    · rw [hf] at h
      exact (step_yields hf).bind (ih h)

/-- The summary with further functions that are skipped. -/
def skipping (p : Pipeline) (fs : List Function) (s : Summary) : Summary :=
  { s with skipped := s.skipped ++ (fs.filter fun f => !p.isSelected f).map Function.name }

theorem select_yields (p : Pipeline) (fs : List Function) (s : Run) :
    (p.select fs).Yields s (.ok (fs.filter p.isSelected))
      { s with summary := p.skipping fs s.summary } := by
  induction fs generalizing s with
  | nil =>
    have hsame : ({ s with summary := p.skipping [] s.summary } : Run) = s := by
      simp [skipping]
    rw [hsame]
    exact Task.yields_pure s []
  | cons f fs ih =>
    rw [select]
    by_cases hf : p.isSelected f = true
    · rw [if_pos hf, List.filter_cons_of_pos hf]
      have hskip : p.skipping (f :: fs) s.summary = p.skipping fs s.summary := by
        simp [skipping, hf]
      rw [hskip]
      exact (ih s).bind (Task.yields_pure _ _)
    · rw [if_neg hf, List.filter_cons_of_neg hf]
      have hskip : p.skipping (f :: fs) s.summary =
          p.skipping fs (s.summary.addSkipped f.name) := by
        simp [skipping, hf, Summary.addSkipped]
      rw [hskip]
      have hrest := (summarize_yields (fun s => s.addSkipped f.name) s).bind
        (f := fun _ => p.select fs) (ih _)
      split
      · exact (Task.yields_note s _).bind hrest
      · exact hrest

/-- A run skips the functions that are not selected and takes the steps of the others. -/
theorem run_yields (hinfo : p.settings.dumpInfo = true) {fs : List Function} {s s' : Run}
    {result : Except Failure Unit}
    (h : p.steps (fs.filter p.isSelected) { s with summary := p.skipping fs s.summary } =
      (result, s')) : (p.run fs).Yields s result s' := by
  rw [run]
  refine (p.select_yields fs s).bind ?_
  rw [dumpAll, if_pos hinfo]
  exact dumpEach_yields h

/-- Steps in turn are those of the first functions and then those of the others. -/
theorem steps_append (p : Pipeline) (fs gs : List Function) (s : Run) :
    p.steps (fs ++ gs) s = andThen (p.steps gs) (p.steps fs s) := by
  induction fs generalizing s with
  | nil => rfl
  | cons f fs ih =>
    rw [List.cons_append, steps, steps]
    rcases p.step f s with ⟨e | _, s'⟩
    · rfl
    · exact ih s'

end Pipeline
end BorrowGraph
