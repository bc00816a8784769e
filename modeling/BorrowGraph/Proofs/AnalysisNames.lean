/-
Reports under other names.

Two analyses are the same up to names when a renaming of points leads from one to the other,
and one of loans (`Analysis.Renamed`).  Their reports then differ in the names of loans only:

* `resultOf_renamed`: stores that are the same up to the names of points lead to such analyses;
* `loansAt_renamed`, `createdAt_renamed`, `ownedAt_renamed`: the cells of a point;
* `build_renamed`: a whole report, with all loans under their other names.
-/
import BorrowGraph.Proofs.CompletionNames
import BorrowGraph.Proofs.ReportCells

namespace BorrowGraph

/-! ### Sorting -/

section Sorting

variable {α : Type} {le : α → α → Bool}

/-- Sorting forgets the order. -/
theorem mergeSort_eq_of_perm (htrans : ∀ a b c, le a b = true → le b c = true → le a c = true)
    (htotal : ∀ a b, (le a b || le b a) = true)
    (hantisymm : ∀ a b, le a b = true → le b a = true → a = b) {xs ys : List α}
    (h : xs.Perm ys) : xs.mergeSort le = ys.mergeSort le := by
  have hperm : (xs.mergeSort le).Perm (ys.mergeSort le) :=
    (List.mergeSort_perm xs le).trans (h.trans (List.mergeSort_perm ys le).symm)
  exact hperm.eq_of_pairwise (fun a b _ _ hab hba => hantisymm a b hab hba)
    (List.pairwise_mergeSort htrans htotal xs) (List.pairwise_mergeSort htrans htotal ys)

end Sorting

theorem sortInts_eq_of_perm {xs ys : List Int} (h : xs.Perm ys) :
    Liveness.sortInts xs = Liveness.sortInts ys := by
  refine mergeSort_eq_of_perm ?_ ?_ ?_ h
  · simp only [decide_eq_true_eq]
    omega
  · simp only [Bool.or_eq_true, decide_eq_true_eq]
    omega
  · simp only [decide_eq_true_eq]
    omega

theorem sortPairs_eq_of_perm {xs ys : List (Int × Int)} (h : xs.Perm ys) :
    xs.mergeSort Facts.pairLe = ys.mergeSort Facts.pairLe := by
  refine mergeSort_eq_of_perm ?_ ?_ ?_ h
  · intro a b c hab hbc
    exact pairLe_iff.mpr ((pairLe_iff.mp hab).trans (pairLe_iff.mp hbc))
  · intro a b
    simpa only [Bool.or_eq_true, pairLe_iff] using PairLe.total a b
  · intro a b hab hba
    exact (pairLe_iff.mp hab).antisymm (pairLe_iff.mp hba)

/-- Numbers in ascending order are sorted. -/
theorem sortInts_of_ascending {xs : List Int} (h : xs.Pairwise (· < ·)) :
    Liveness.sortInts xs = xs := by
  refine List.mergeSort_of_pairwise (h.imp fun hlt => ?_)
  rw [decide_eq_true_eq]
  omega

/-! ### Numberings -/

/-- Numberings of the same points. -/
structure PointTable.Renamed (π : Equiv.Perm PointIndex) (t t' : PointTable) : Prop where
  mem_iff : ∀ p, p ∈ t'.points ↔ p ∈ t.points
  number : ∀ p ∈ t.points, π (t.number p) = t'.number p

namespace PointTable

variable {t t' : PointTable}

/-- Tables of the same points differ in the names of points. -/
theorem exists_renamed (h : ∀ p, p ∈ t'.points ↔ p ∈ t.points) :
    ∃ π : Equiv.Perm PointIndex, Renamed π t t' := by
  obtain ⟨π, hπ, -⟩ := exists_renumbering (e := Equiv.refl Point) 0 t.nodup t'.nodup h
  refine ⟨π, h, fun p hp => ?_⟩
  simpa only [number, Int.zero_add, Equiv.refl_apply] using hπ p hp

theorem Renamed.resolve_eq_ok_iff {π : Equiv.Perm PointIndex} (h : Renamed π t t') (n : PointIndex)
    (p : Point) : t'.resolve (π n) = .ok p ↔ t.resolve n = .ok p := by
  rw [PointTable.resolve_eq_ok_iff, PointTable.resolve_eq_ok_iff, h.mem_iff]
  refine and_congr_right fun hp => ?_
  rw [← h.number p hp, π.injective.eq_iff]

end PointTable

/-! ### Stores -/

/-- No tuple of the relations that a report shows is repeated. -/
structure Facts.IsNodup (f : Facts) : Prop where
  borrowRegion : f.borrowRegion.Nodup
  outlives : f.outlives.Nodup
  regionLiveAt : f.regionLiveAt.Nodup

section IsNodup

variable {f : Facts} (hf : f.IsNodup)
include hf

theorem Facts.IsNodup.borrowsAt (n : PointIndex) : (f.borrowsAt n).Nodup := by
  refine hf.borrowRegion.filterMap ?_
  rintro ⟨r, l, q⟩ ⟨r', l', q'⟩ x hx hx'
  simp only [Option.mem_def, Option.ite_none_right_eq_some, Option.some_inj] at hx hx'
  obtain ⟨rfl, rfl⟩ := hx
  obtain ⟨rfl, heq⟩ := hx'
  obtain ⟨rfl, rfl⟩ := Prod.mk.inj heq
  rfl

theorem Facts.IsNodup.regionsAt (n : PointIndex) : (f.regionsAt n).Nodup := by
  refine hf.regionLiveAt.filterMap ?_
  rintro ⟨r, q⟩ ⟨r', q'⟩ x hx hx'
  simp only [Option.mem_def, Option.ite_none_right_eq_some, Option.some_inj] at hx hx'
  obtain ⟨rfl, rfl⟩ := hx
  obtain ⟨rfl, rfl⟩ := hx'
  rfl

end IsNodup

theorem Completion.isNodup_run {f : Facts} {table : PointTable} {body : Body} {owners : Owners}
    (hf : f.IsNodup) (h : (run f table body owners).2 = none) :
    (run f table body owners).1.facts.IsNodup := by
  refine ⟨nodup_borrowRegion_run hf.borrowRegion h, ?_, ?_⟩
  · obtain ⟨plan, -, -, hadds⟩ := run_adds h
    rw [hadds.facts]
    exact hf.outlives
  · rw [run_regionLiveAt h]
    exact hf.regionLiveAt

/-- Stores that hold the same facts under their own numberings. -/
structure FactStore.Alike (s s' : FactStore) : Prop where
  unfrozen : s'.points.frozen = false
  mem_points : ∀ p, p ∈ s'.points.points ↔ p ∈ s.points.points
  nodup : s.facts.IsNodup ∧ s'.facts.IsNodup
  /-- A renaming that fits the points of the stores fits their facts. -/
  facts : ∀ π : Equiv.Perm PointIndex,
    (∀ p ∈ s.points.points, π (s.points.number p) = s'.points.number p) →
      Facts.Renamed π (Equiv.refl Loan) s.facts s'.facts

/-! ### Analyses -/

namespace Analysis

/-- Analyses that are the same up to the names of points and loans. -/
structure Renamed (π : Equiv.Perm PointIndex) (σ : Equiv.Perm Loan) (a a' : Analysis) : Prop where
  points : PointTable.Renamed π a.points a'.points
  facts : Facts.Renamed π σ a.facts a'.facts
  nodup : a.facts.IsNodup ∧ a'.facts.IsNodup
  live : ∀ p l, σ l ∈ a'.output.liveAt (π p) ↔ l ∈ a.output.liveAt p
  ordered : a.output.IsOrdered ∧ a'.output.IsOrdered
  owners : a'.owners = a.owners
  issued : ∀ l, l ∉ a.completion.loans → σ l = l
  completion : Completion.Renamed σ a.completion a'.completion

/-- **An analysis does not depend on the numbering of points.**  If the analysis of a store
succeeds then it does so for each store that holds the same facts, with the same result up to
names. -/
theorem resultOf_renamed {body : Body} {store store' : FactStore} {owners : Owners} {bound : Int}
    {a : Analysis} (h : store.Alike store')
    (ha : resultOf body store owners (Solver.bounded bound) = .ok a) :
    ∃ a' π σ, resultOf body store' owners (Solver.bounded bound) = .ok a' ∧ Renamed π σ a a' := by
  obtain ⟨hpoints, hdone, hfacts, hissued, houtput, howners⟩ := resultOf_eq_ok_iff.mp ha
  obtain ⟨points', hpoints'⟩ := numberPoints_of_open h.unfrozen body
  obtain ⟨happended, hmem⟩ := numberPoints_eq_ok hpoints
  obtain ⟨happended', hmem'⟩ := numberPoints_eq_ok hpoints'
  -- Both tables have the points of the stores and those of the body.
  have hsame : ∀ p, p ∈ points'.points ↔ p ∈ a.points.points := by
    intro p
    rw [hmem, hmem', h.mem_points]
  obtain ⟨π, hπ⟩ := PointTable.exists_renamed hsame
  -- The points of the stores have kept their numbers, so the same renaming fits the facts.
  have hstores : Facts.Renamed π (Equiv.refl Loan) store.facts store'.facts := by
    refine h.facts π fun p hp => ?_
    rw [← PointTable.number_of_prefix happended hp, hπ.number p (happended.subset hp),
      PointTable.number_of_prefix happended' ((h.mem_points p).mpr hp)]
  obtain ⟨hdone', σ, hσ, hissued', hfacts'⟩ := Completion.run_renamed hstores h.nodup.1.outlives
    h.nodup.2.outlives hπ.resolve_eq_ok_iff hdone
  rw [← hfacts] at hfacts'
  rcases Liveness.solve_renamed hfacts' bound with ⟨e, _, he, -⟩ | ⟨o, o', ho, ho', hlive⟩
  · exact absurd (he.symm.trans houtput) (by simp)
  · obtain rfl : o = a.output := Except.ok.inj (ho.symm.trans houtput)
    let a' : Analysis := ⟨(Completion.run store'.facts points' body owners).1.facts, o', points',
      owners, (Completion.run store'.facts points' body owners).1.issued⟩
    have ha' : resultOf body store' owners (Solver.bounded bound) = .ok a' :=
      resultOf_eq_ok_iff.mpr ⟨hpoints', hdone', rfl, rfl, ho', rfl⟩
    refine ⟨a', π, σ, ha', ?_⟩
    refine ⟨hπ, hfacts', ⟨?_, Completion.isNodup_run h.nodup.2 hdone'⟩, hlive,
      ⟨Liveness.isOrdered_of_solve ho, Liveness.isOrdered_of_solve ho'⟩, howners.symm, ?_, ?_⟩
    · rw [hfacts]
      exact Completion.isNodup_run h.nodup.1 hdone
    · rw [hissued]
      exact hσ
    · rw [hissued]
      exact hissued'

theorem mem_points_of_resultOf {body : Body} {store : FactStore} {owners : Owners} {solver : Solver}
    {a : Analysis} (h : resultOf body store owners solver = .ok a) {l : Location}
    (hl : l ∈ body.locations) (phase : Phase) : ⟨l, phase⟩ ∈ a.points.points := by
  obtain ⟨-, hmem⟩ := numberPoints_eq_ok (resultOf_eq_ok_iff.mp h).1
  exact (hmem _).mpr (.inr (mem_bodyPoints.mpr hl))

section Cells

variable {π : Equiv.Perm PointIndex} {σ : Equiv.Perm Loan} {a a' : Analysis}
  (h : Renamed π σ a a') {p : Point} (hp : p ∈ a.points.points)
include h hp

/-- The live loans of a point. -/
theorem loansAt_renamed : a'.loansAt p = Liveness.sortInts ((a.loansAt p).map σ) := by
  have hasc := h.ordered.1.borrowLive.sets (a.points.number p)
  have hasc' := h.ordered.2.borrowLive.sets (π (a.points.number p))
  have hperm := perm_map_of_mem_iff (e := σ) hasc.nodup hasc'.nodup (h.live (a.points.number p))
  rw [loansAt, loansAt, ← h.points.number p hp]
  exact ((sortInts_eq_of_perm hperm).trans (sortInts_of_ascending hasc')).symm

theorem createdAt_renamed :
    a'.createdAt p = ((a.createdAt p).map fun x => (x.1, σ x.2)).mergeSort Facts.pairLe := by
  have hperm := perm_map_of_mem_iff (e := (Equiv.refl Region).prodCongr σ)
    (h.nodup.1.borrowsAt (a.points.number p)) (h.nodup.2.borrowsAt (π (a.points.number p))) (by
      rintro ⟨r, l⟩
      show (r, σ l) ∈ _ ↔ _
      rw [Facts.mem_borrowsAt, Facts.mem_borrowsAt, h.facts.borrowRegion])
  rw [createdAt, createdAt, ← h.points.number p hp]
  -- The cell was sorted under the old names, and is sorted again under the new ones.
  exact sortPairs_eq_of_perm (((List.mergeSort_perm _ _).map _).trans hperm).symm

theorem ownedAt_renamed : a'.ownedAt p = a.ownedAt p := by
  have hperm : (a'.facts.regionsAt (π (a.points.number p))).Perm
      (a.facts.regionsAt (a.points.number p)) := by
    refine (List.perm_ext_iff_of_nodup (h.nodup.2.regionsAt _)
      (h.nodup.1.regionsAt _)).mpr fun r => ?_
    rw [Facts.mem_regionsAt, Facts.mem_regionsAt, h.facts.regionLiveAt]
  rw [ownedAt, ownedAt, ← h.points.number p hp, sortInts_eq_of_perm hperm, h.owners]

end Cells

end Analysis

/-! ### Reports -/

/-- The record, with loans under other names, again in order. -/
def Record.renamed (σ : Equiv.Perm Loan) (r : Record) : Record :=
  { r with
    loans := ⟨Liveness.sortInts (r.loans.start.map σ), Liveness.sortInts (r.loans.mid.map σ)⟩
    borrows := ⟨(r.borrows.start.map fun x => (x.1, σ x.2)).mergeSort Facts.pairLe,
      (r.borrows.mid.map fun x => (x.1, σ x.2)).mergeSort Facts.pairLe⟩ }

/-- The report of a block, with loans under other names. -/
def BlockReport.renamed (σ : Equiv.Perm Loan) (b : BlockReport) : BlockReport :=
  { b with records := b.records.map (Record.renamed σ) }

/-- The same report, up to the names of the loans that were issued. -/
structure Report.Renamed (σ : Equiv.Perm Loan) (r r' : Report) : Prop where
  /-- All other loans keep their names. -/
  issued : ∀ l, l ∉ r.completion.loans → σ l = l
  name : r'.name = r.name
  path : r'.path = r.path
  blocks : r'.blocks = r.blocks.map (BlockReport.renamed σ)
  locals : r'.locals = r.locals
  regions : r'.regions = r.regions
  completion : Completion.Renamed σ r.completion r'.completion

namespace Report

section Renamed

variable {π : Equiv.Perm PointIndex} {σ : Equiv.Perm Loan} {a a' : Analysis}
  (h : a.Renamed π σ a') (i : Initialization)
include h

theorem lineRecord_renamed {x : Block.Line}
    (hx : ∀ phase, ⟨x.location, phase⟩ ∈ a.points.points) :
    lineRecord a' i x = (lineRecord a i x).map (Record.renamed σ) := by
  have hx' : ∀ phase, ⟨x.location, phase⟩ ∈ a'.points.points := fun phase =>
    (h.points.mem_iff _).mpr (hx phase)
  rw [lineRecord, lineRecord, record_eq (hx _) (hx _), record_eq (hx' _) (hx' _),
    Analysis.ownedAt_renamed h (hx _), Analysis.ownedAt_renamed h (hx _),
    Analysis.loansAt_renamed h (hx _), Analysis.loansAt_renamed h (hx _),
    Analysis.createdAt_renamed h (hx _), Analysis.createdAt_renamed h (hx _)]
  rcases a.ownedAt ⟨x.location, .start⟩ with d | start
  · rfl
  · rcases a.ownedAt ⟨x.location, .mid⟩ with d | mid
    · rfl
    · rfl

theorem blockReport_renamed {b : Block}
    (hb : ∀ l ∈ b.locations, ∀ phase, ⟨l, phase⟩ ∈ a.points.points) :
    blockReport a' i b = (blockReport a i b).map (BlockReport.renamed σ) := by
  have hlines : b.lines.mapM (lineRecord a' i) =
      (b.lines.mapM (lineRecord a i)).map (List.map (Record.renamed σ)) := by
    refine mapM_eq_map fun x hx => lineRecord_renamed h i fun phase => hb _ ?_ phase
    rw [← Block.map_location_lines]
    exact List.mem_map_of_mem hx
  rw [blockReport_eq, blockReport_eq, hlines]
  rcases b.lines.mapM (lineRecord a i) with d | records
  · rfl
  · rcases b.edges with d | edges
    · rfl
    · rfl

/-- Analyses that are the same up to names have reports that are so. -/
theorem build_renamed {body : Body} {init : Option Initialization} {name path : String} {r : Report}
    (hbody : ∀ l ∈ body.locations, ∀ phase, ⟨l, phase⟩ ∈ a.points.points)
    (hr : build body a init name path = .ok r) :
    ∃ r', build body a' init name path = .ok r' ∧ r.Renamed σ r' := by
  have hblocks : body.blocks.mapM (blockReport a' (init.getD .none)) =
      (body.blocks.mapM (blockReport a (init.getD .none))).map
        (List.map (BlockReport.renamed σ)) := by
    refine mapM_eq_map fun b hb => blockReport_renamed h _ fun l hl => hbody l ?_
    exact List.mem_flatMap.mpr ⟨b, hb, hl⟩
  obtain ⟨blocks, hok, hr⟩ := bind_eq_ok.mp hr
  obtain rfl := Except.ok.inj hr
  rw [hok] at hblocks
  refine ⟨_, bind_eq_ok.mpr ⟨_, hblocks, rfl⟩, ?_⟩
  exact ⟨h.issued, rfl, rfl, rfl, rfl, by rw [h.owners], h.completion⟩

end Renamed

end Report
end BorrowGraph
