/-
A report shows exactly what the analysis knows.

Each record belongs to one location of the body and shows, for each phase, what the analysis
knows at the point of that phase (`Record.Shows`).  So each creation of a loan at a point of
the body stands in one cell of the report, and a report shows no other creations:

* `flatMap_filter_perm`: sorting entries by distinct keys neither loses nor repeats any;
* `creations_perm`: the creations that a report shows are those of the completed facts, in some
  order;
* `build_exact`: the whole report of an analysis.
-/
import BorrowGraph.Proofs.AnalysisResult
import BorrowGraph.Proofs.ReportCells
import Mathlib.Data.List.Perm.Basic

namespace BorrowGraph

/-! ### What a report shows -/

/-- The value at a phase. -/
def Phased.get {α : Type} (x : Phased α) : Phase → α
  | .start => x.start
  | .mid => x.mid

/-- The creation of a loan at a point, into a region. -/
structure Creation where
  point : Point
  region : Region
  loan : Loan
  deriving DecidableEq, Repr

/-- The creations that a record shows, phase by phase. -/
def Record.creations (record : Record) : List Creation :=
  [Phase.start, Phase.mid].flatMap fun phase =>
    (record.borrows.get phase).map fun x => ⟨⟨record.location, phase⟩, x.1, x.2⟩

/-- The creations that a report shows, record by record. -/
def Report.creations (r : Report) : List Creation :=
  r.records.flatMap Record.creations

namespace Analysis

/-- The creation that a tuple stands for. -/
def creation? (a : Analysis) (t : Region × Loan × PointIndex) : Option Creation :=
  (a.points.resolve t.2.2).toOption.map fun p => ⟨p, t.1, t.2.1⟩

/-- The creations at points of a body. -/
def creationsIn (a : Analysis) (body : Body) : List Creation :=
  (a.facts.borrowRegion.filterMap a.creation?).filter fun c => body.contains c.point.location

end Analysis

/-- What a record shows at a phase is what the analysis knows at a point: the live loans, the
loans created there and the live regions, each with its only owner or with none. -/
structure Record.Shows (record : Record) (phase : Phase) (a : Analysis) (p : PointIndex) :
    Prop where
  loans : record.loans.get phase = a.output.liveAt p
  borrows : ((record.borrows.get phase).map fun x => (x.1, x.2, p)).Perm
    (a.facts.borrowRegion.filter fun t => t.2.2 = p)
  regions : ((record.regions.get phase).map fun x => (x.1, p)).Perm
    (a.facts.regionLiveAt.filter fun t => t.2 = p)
  owners : ∀ x ∈ record.regions.get phase, a.owners.ownersOf x.1 = x.2.toList

/-! ### Lists -/

/-- Distinct keys split the entries that have one of them. -/
theorem flatMap_filter_perm {α κ : Type} [DecidableEq κ] (key : α → κ) {keys : List κ}
    (h : keys.Nodup) (xs : List α) :
    (keys.flatMap fun k => xs.filter fun x => key x = k).Perm
      (xs.filter fun x => key x ∈ keys) := by
  induction keys with
  | nil => simp
  | cons k keys ih =>
    rw [List.nodup_cons] at h
    have hfirst : (xs.filter fun x => key x ∈ k :: keys).filter (fun x => key x = k) =
        xs.filter fun x => key x = k := by
      rw [List.filter_filter]
      refine List.filter_congr fun x _ => ?_
      by_cases hx : key x = k
      · simp [hx]
      · simp [hx]
    have hrest : (xs.filter fun x => key x ∈ k :: keys).filter (fun x => !decide (key x = k)) =
        xs.filter fun x => key x ∈ keys := by
      rw [List.filter_filter]
      refine List.filter_congr fun x _ => ?_
      by_cases hx : key x = k
      · simp [hx, h.1]
      · simp [hx]
    have hsplit := List.filter_append_perm (fun x => decide (key x = k))
      (xs.filter fun x => key x ∈ k :: keys)
    rw [hfirst, hrest] at hsplit
    rw [List.flatMap_cons]
    exact ((ih h.2).append_left _).trans hsplit

theorem map_eq_of_forall₂ {α β γ : Type} {R : α → β → Prop} {xs : List α} {ys : List β}
    {f : α → γ} {g : β → γ} (h : List.Forall₂ R xs ys) (hfg : ∀ x y, R x y → g y = f x) :
    ys.map g = xs.map f := by
  induction h with
  | nil => rfl
  | cons hxy _ ih => rw [List.map_cons, List.map_cons, hfg _ _ hxy, ih]

/-! ### The cells of a record -/

namespace Report

variable {a : Analysis} {i : Initialization}

/-- The parts of a record. -/
theorem lineRecord_eq_ok {x : Block.Line} {record : Record}
    (hpoints : ∀ phase, ⟨x.location, phase⟩ ∈ a.points.points)
    (h : lineRecord a i x = .ok record) :
    record.location = x.location ∧ record.isTerminator = x.isTerminator ∧
      record.initialized = sortTexts (i.afterStatement x.location) ∧
      ∀ phase, record.loans.get phase = a.loansAt ⟨x.location, phase⟩ ∧
        record.borrows.get phase = a.createdAt ⟨x.location, phase⟩ ∧
        a.ownedAt ⟨x.location, phase⟩ = .ok (record.regions.get phase) := by
  rw [lineRecord, record_eq (hpoints .start) (hpoints .mid)] at h
  obtain ⟨start, hstart, h⟩ := bind_eq_ok.mp h
  obtain ⟨mid, hmid, h⟩ := bind_eq_ok.mp h
  obtain rfl := Except.ok.inj h
  refine ⟨rfl, rfl, rfl, fun phase => ?_⟩
  cases phase with
  | start => exact ⟨rfl, rfl, hstart⟩
  | mid => exact ⟨rfl, rfl, hmid⟩

theorem createdAt_perm (a : Analysis) (p : Point) :
    ((a.createdAt p).map fun x => (x.1, x.2, a.points.number p)).Perm
      (a.facts.borrowRegion.filter fun t => t.2.2 = a.points.number p) := by
  refine ((List.mergeSort_perm _ _).map _).trans ?_
  rw [Facts.borrowsAt, List.map_filterMap, ← List.filterMap_eq_filter]
  refine List.Perm.of_eq (List.filterMap_congr ?_)
  rintro ⟨r, l, q⟩ -
  by_cases hq : q = a.points.number p
  · simp [hq, Option.guard]
  · simp [hq, Option.guard]

theorem ownedAt_perm {p : Point} {cell : List (Region × Option Local)}
    (h : a.ownedAt p = .ok cell) :
    (cell.map fun x => (x.1, a.points.number p)).Perm
      (a.facts.regionLiveAt.filter fun t => t.2 = a.points.number p) := by
  have hfst : cell.map (fun x => (x.1, a.points.number p)) =
      (Liveness.sortInts (a.facts.regionsAt (a.points.number p))).map
        fun r => (r, a.points.number p) := by
    refine map_eq_of_forall₂ (mapM_eq_ok.mp h) ?_
    intro r x hx
    obtain ⟨n, -, hpair⟩ := bind_eq_ok.mp hx
    rw [← Except.ok.inj hpair]
  rw [hfst]
  refine ((List.mergeSort_perm _ _).map _).trans ?_
  rw [Facts.regionsAt, List.map_filterMap, ← List.filterMap_eq_filter]
  refine List.Perm.of_eq (List.filterMap_congr ?_)
  rintro ⟨r, q⟩ -
  by_cases hq : q = a.points.number p
  · simp [hq, Option.guard]
  · simp [hq, Option.guard]

/-- A record shows what the analysis knows at its points. -/
theorem shows_of_lineRecord {x : Block.Line} {record : Record}
    (hpoints : ∀ phase, ⟨x.location, phase⟩ ∈ a.points.points)
    (h : lineRecord a i x = .ok record) (phase : Phase) :
    record.Shows phase a (a.points.number ⟨record.location, phase⟩) := by
  obtain ⟨hl, -, -, hcells⟩ := lineRecord_eq_ok hpoints h
  obtain ⟨hloans, hborrows, hregions⟩ := hcells phase
  rw [hl]
  refine ⟨hloans, ?_, ownedAt_perm hregions, ?_⟩
  · rw [hborrows]
    exact createdAt_perm a _
  · rintro ⟨r, n⟩ hx
    exact ((Analysis.mem_ownedAt hregions).mp hx).2

/-! ### All creations -/

/-- The creations at a point are those of the facts that stand for it. -/
theorem creations_at_perm {p : Point} (hp : p ∈ a.points.points) :
    ((a.createdAt p).map fun x => (⟨p, x.1, x.2⟩ : Creation)).Perm
      ((a.facts.borrowRegion.filterMap a.creation?).filter fun c => c.point = p) := by
  have htuples := ((createdAt_perm a p).map fun t => (⟨p, t.1, t.2.1⟩ : Creation))
  rw [List.map_map] at htuples
  refine htuples.trans (List.Perm.of_eq ?_)
  rw [List.filter_filterMap, ← List.filterMap_eq_map, List.filterMap_filter]
  refine List.filterMap_congr ?_
  rintro ⟨r, l, q⟩ -
  -- A number stands for `p` just when it is the number of `p`.
  have hiff : a.points.resolve q = .ok p ↔ q = a.points.number p := by
    rw [PointTable.resolve_eq_ok_iff]
    exact ⟨fun h => h.2.symm, fun h => ⟨hp, h.symm⟩⟩
  rw [Analysis.creation?]
  rcases hq : a.points.resolve q with d | p'
  · rw [hq] at hiff
    have hne : q ≠ a.points.number p := fun h => by simpa using hiff.mpr h
    simp [hne, Except.toOption]
  · rw [hq, Except.ok.injEq] at hiff
    by_cases hp' : p' = p
    · have heq := hiff.mp hp'
      simp [hp', heq, Except.toOption, Option.filter]
    · have hne : q ≠ a.points.number p := fun h => hp' (hiff.mpr h)
      simp [hp', hne, Except.toOption, Option.filter]

variable {body : Body} {init : Option Initialization} {name path : String} {r : Report}

/-- The records belong to the lines of the body, one by one. -/
theorem records_forall₂ (hpoints : ∀ q : Point, q.location ∈ body.locations → q ∈ a.points.points)
    (h : build body a init name path = .ok r) :
    List.Forall₂ (fun x record => (∀ phase, ⟨x.location, phase⟩ ∈ a.points.points) ∧
      lineRecord a (init.getD .none) x = .ok record)
      (body.blocks.flatMap Block.lines) r.records := by
  refine (List.forall₂_and_left _ _).mpr ⟨fun x hx phase => hpoints _ ?_, records_of_build h⟩
  obtain ⟨b, hb, hx⟩ := List.mem_flatMap.mp hx
  refine List.mem_flatMap.mpr ⟨b, hb, ?_⟩
  rw [← Block.map_location_lines]
  exact List.mem_map_of_mem hx

/-- There is one record for each location, in the order of the body. -/
theorem map_location_records
    (hpoints : ∀ q : Point, q.location ∈ body.locations → q ∈ a.points.points)
    (h : build body a init name path = .ok r) :
    r.records.map Record.location = body.locations := by
  have hmap : r.records.map Record.location =
      (body.blocks.flatMap Block.lines).map Block.Line.location :=
    map_eq_of_forall₂ (records_forall₂ hpoints h) fun x record hx => (lineRecord_eq_ok hx.1 hx.2).1
  rw [hmap, List.map_flatMap, Body.locations]
  exact List.flatMap_congr fun b _ => Block.map_location_lines b

/-- A report shows each creation at a point of the body once, and no others. -/
theorem creations_perm (hbody : body.IsNumbered)
    (hpoints : ∀ q : Point, q.location ∈ body.locations → q ∈ a.points.points)
    (h : build body a init name path = .ok r) : r.creations.Perm (a.creationsIn body) := by
  have hrecords : r.creations = (Analysis.bodyPoints body).flatMap fun p =>
      (a.createdAt p).map fun x => (⟨p, x.1, x.2⟩ : Creation) := by
    rw [Analysis.bodyPoints, ← map_location_records hpoints h, List.flatMap_assoc, creations,
      List.flatMap_map]
    refine List.flatMap_congr fun record hrecord => ?_
    obtain ⟨x, -, hx⟩ := exists_of_mem_right (records_forall₂ hpoints h) hrecord
    obtain ⟨hl, -, -, hcells⟩ := lineRecord_eq_ok hx.1 hx.2
    rw [← hl] at hcells
    rw [Record.creations]
    simp only [List.flatMap_cons, List.flatMap_nil, (hcells .start).2.1, (hcells .mid).2.1]
  rw [hrecords]
  refine (List.Perm.flatMap_left _ fun p hp =>
    creations_at_perm (hpoints p (Analysis.mem_bodyPoints.mp hp))).trans ?_
  refine (flatMap_filter_perm Creation.point (Analysis.nodup_bodyPoints hbody) _).trans
    (List.Perm.of_eq ?_)
  refine List.filter_congr fun c _ => ?_
  rw [Bool.eq_iff_iff, decide_eq_true_iff, Analysis.mem_bodyPoints, hbody.mem_locations_iff]

/-- A loan that is created by one tuple, at a point of the body, is shown once. -/
theorem creation_once (hr : r.creations.Perm (a.creationsIn body)) {l : Loan}
    {t : Region × Loan × PointIndex}
    (ht : a.facts.borrowRegion.filter (fun t => t.2.1 = l) = [t]) {p : Point}
    (hp : a.points.resolve t.2.2 = .ok p) (hin : body.contains p.location = true) :
    r.creations.filter (fun c => c.loan = l) = [⟨p, t.1, l⟩] := by
  have htuple : a.creation? t = some ⟨p, t.1, l⟩ := by
    have hl : t.2.1 = l := by
      have hmem : t ∈ a.facts.borrowRegion.filter (fun t => t.2.1 = l) := by simp [ht]
      simpa using (List.mem_filter.mp hmem).2
    rw [Analysis.creation?, hp, hl]
    rfl
  have hall : (a.facts.borrowRegion.filterMap a.creation?).filter (fun c => c.loan = l) =
      [⟨p, t.1, l⟩] := by
    have hloan : ∀ t c, a.creation? t = some c → c.loan = t.2.1 := by
      intro t c hc
      obtain ⟨q, -, rfl⟩ := Option.map_eq_some_iff.mp hc
      rfl
    have hfilter : (a.facts.borrowRegion.filterMap a.creation?).filter (fun c => c.loan = l) =
        (a.facts.borrowRegion.filter (fun t => t.2.1 = l)).filterMap a.creation? := by
      rw [List.filter_filterMap, List.filterMap_filter]
      refine List.filterMap_congr fun t _ => ?_
      rcases hc : a.creation? t with _ | c
      · simp
      · simp [hloan t c hc, Option.filter]
    rw [hfilter, ht, List.filterMap_cons_some htuple, List.filterMap_nil]
  refine List.perm_singleton.mp ((hr.filter _).trans (List.Perm.of_eq ?_))
  rw [Analysis.creationsIn, List.filter_comm, hall]
  simp [hin]

/-! ### The whole report -/

/-- **A report is exact.**  For an analysis that succeeds and the report that is built from it:
there is one record for each location of the body, in order, the last one of each block being
that of its terminator; each record shows, for each phase, what the solver and the completed
facts say about the number of that point; each creation of a loan at a point of the body is
shown once, under its point, and no other is; and each loan that completion has issued is shown
in one cell. -/
theorem build_exact {σ : Type} {s : σ} {store : FactStore} {owners : Owners} {solver : Solver}
    (hbody : body.IsNumbered)
    (ha : ((Analysis.ofFacts body store owners solver : Task σ Analysis).start s).1 = .ok a)
    (hr : build body a init name path = .ok r) :
    a.IsOf body store owners solver ∧ a.facts.regionLiveAt = store.facts.regionLiveAt ∧
      r.records.map Record.location = body.locations ∧
      List.Forall₂ (fun b part => part.index = b.index ∧
          part.records.map Record.isTerminator =
            List.replicate b.statements.length false ++ [true] ∧
          part.initialized.Perm ((init.getD .none).beforeBlock b.index)) body.blocks r.blocks ∧
      (∀ record ∈ r.records,
        record.initialized.Perm ((init.getD .none).afterStatement record.location) ∧
        ∀ phase, ∃ p, (∀ q, a.points.resolve q = .ok ⟨record.location, phase⟩ ↔ q = p) ∧
          record.Shows phase a p) ∧
      r.creations.Perm (a.creationsIn body) ∧
      ∀ l ∈ a.completion.loans, ∃ c, r.creations.filter (fun c => c.loan = l) = [c] := by
  have hof := Analysis.ofFacts_eq_ok ha
  have hpoints : ∀ q : Point, q.location ∈ body.locations → q ∈ a.points.points :=
    fun q hq => (hof.points_iff q).mpr (.inr hq)
  have hcreations := creations_perm hbody hpoints hr
  refine ⟨hof, ?_, map_location_records hpoints hr, ?_, ?_, hcreations, ?_⟩
  · rw [hof.facts]
    exact Completion.run_regionLiveAt hof.completed
  · have hlines : ∀ b ∈ body.blocks, ∀ x ∈ b.lines, ∀ phase,
        ⟨x.location, phase⟩ ∈ a.points.points := by
      intro b hb x hx phase
      refine hpoints _ (List.mem_flatMap.mpr ⟨b, hb, ?_⟩)
      rw [← Block.map_location_lines]
      exact List.mem_map_of_mem hx
    refine ((List.forall₂_and_left _ _).mpr ⟨hlines, build_eq_ok hr⟩).imp ?_
    rintro b part ⟨hb, hpart⟩
    obtain ⟨hindex, hinit, hrecords⟩ := blockReport_eq_ok hpart
    refine ⟨hindex, ?_, ?_⟩
    · rw [← Block.map_isTerminator_lines]
      refine map_eq_of_forall₂ ((List.forall₂_and_left _ _).mpr ⟨hb, hrecords⟩)
        fun x record hx => ?_
      exact (lineRecord_eq_ok hx.1 hx.2).2.1
    · rw [hinit]
      exact List.mergeSort_perm _ _
  · intro record hrecord
    obtain ⟨x, -, hx⟩ := exists_of_mem_right (records_forall₂ hpoints hr) hrecord
    obtain ⟨hl, -, hinit, -⟩ := lineRecord_eq_ok hx.1 hx.2
    refine ⟨?_, fun phase => ⟨_, fun q => ?_, shows_of_lineRecord hx.1 hx.2 phase⟩⟩
    · rw [hinit, hl]
      exact List.mergeSort_perm _ _
    · rw [PointTable.resolve_eq_ok_iff, hl]
      exact ⟨fun h => h.2.symm, fun h => ⟨hx.1 phase, h.symm⟩⟩
  · intro l hl
    rw [hof.completion] at hl
    obtain ⟨t, hone, p, hp, hin⟩ := Completion.run_created_once hof.completed hl
    rw [← hof.facts] at hone
    exact ⟨_, creation_once hcreations hone hp hin⟩

/-- A reference is moved at point 0 and passed to a call at point 1; a loan is created at point
2. -/
def callStore : FactStore :=
  { facts :=
      { borrowRegion := [(5, 3, 2)]
        outlives := [(1, 2, 0), (6, 7, 1)]
        regionLiveAt := [(2, 0), (9, 1), (5, 2), (4, 1)]
        cfgEdge := [(0, 2)] }
    points := .ofPoints [⟨⟨0, 0⟩, .mid⟩, ⟨⟨0, 2⟩, .mid⟩, ⟨⟨0, 1⟩, .start⟩] }

/-- What is known about it. -/
def callAnalysis : Analysis :=
  { facts :=
      { callStore.facts with borrowRegion := [(6, 6, 1), (9, 5, 1), (2, 4, 0), (5, 3, 2)] }
    output :=
      { borrowLive := [(0, [4]), (1, [5]), (2, [3])]
        subset := [(0, [(1, [2])]), (1, [(6, [7])])]
        restricts := [(0, [(2, [4])]), (1, [(6, [6]), (7, [6]), (9, [5])]), (2, [(5, [3])])] }
    points := (PointTable.ofPoints [⟨⟨0, 0⟩, .mid⟩, ⟨⟨0, 2⟩, .mid⟩, ⟨⟨0, 1⟩, .start⟩,
      ⟨⟨0, 0⟩, .start⟩, ⟨⟨0, 1⟩, .mid⟩, ⟨⟨0, 2⟩, .start⟩]).freeze
    owners := Completion.moveOwners
    completion := ⟨[4], [6], [(5, 2)]⟩ }

theorem eligible_callStore :
    Completion.eligible callStore.facts = [(0, [(1, 2)]), (1, [(6, 7)])] := by
  cbv

theorem resultOf_callStore :
    Analysis.resultOf Completion.moveBody callStore Completion.moveOwners (.bounded 9) =
      .ok callAnalysis := by
  refine Analysis.resultOf_eq_ok_iff.mpr ⟨by decide, ?_, ?_, ?_, ?_, rfl⟩
  · rw [Completion.run, eligible_callStore]
    decide
  · rw [Completion.run, eligible_callStore]
    decide
  · rw [Completion.run, eligible_callStore]
    decide
  · cbv

theorem callAnalysis_exact :
    Completion.moveBody.IsNumbered ∧
      ((Analysis.ofFacts Completion.moveBody callStore Completion.moveOwners (.bounded 9) :
        Task Unit Analysis).start ()).1 = .ok callAnalysis ∧
      ∃ r, build Completion.moveBody callAnalysis none "call" "" = .ok r ∧
        r.records.map Record.location = Completion.moveBody.locations ∧
        r.creations.Perm (callAnalysis.creationsIn Completion.moveBody) ∧
        ∃ c, r.creations.filter (fun c => c.loan = 6) = [c] := by
  have hbody : Completion.moveBody.IsNumbered :=
    Body.isNumbered_ofBlocks (show Body.ofBlocks Completion.moveBody.blocks [] = _ from rfl)
  have ha : ((Analysis.ofFacts Completion.moveBody callStore Completion.moveOwners (.bounded 9) :
      Task Unit Analysis).start ()).1 = .ok callAnalysis := by
    rw [(Analysis.ofFacts_yields _ _ _ _ ()).start.1, resultOf_callStore]
  obtain ⟨r, hr⟩ : ∃ r, build Completion.moveBody callAnalysis none "call" "" = .ok r :=
    exists_build (by decide) (by decide) (by decide) _ _ _
  obtain ⟨-, -, hlocations, -, -, hcreations, hissued⟩ := build_exact hbody ha hr
  exact ⟨hbody, ha, r, hr, hlocations, hcreations, hissued 6 (by decide)⟩

end Report
end BorrowGraph
