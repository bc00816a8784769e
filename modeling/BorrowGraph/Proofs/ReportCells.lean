/-
A report is made of cells.

Each record of a report has one cell for each phase of its location: the live loans, the loans
created and the live regions with their owners.  What stands in a cell is what the analysis
knows at one point, so a report is described by the analysis point by point:

* `loansAt`, `createdAt`, `ownedAt`: the cells of a point;
* `record_eq`: a record shows the cells of its two points;
* `Block.lines`, `blockReport_eq`: a block has one record for each of its lines, the terminator
  last;
* `build_eq_ok`: a report has the records of all lines, in order;
* `exists_build`: when there is a report.
-/
import BorrowGraph.Proofs.AnalysisResult
import BorrowGraph.Report

namespace BorrowGraph

/-! ### The cells of a point -/

namespace Analysis

variable {a : Analysis}

/-- The live loans. -/
def loansAt (a : Analysis) (p : Point) : List Loan :=
  a.output.liveAt (a.points.number p)

/-- The loans created, with their regions. -/
def createdAt (a : Analysis) (p : Point) : List (Region × Loan) :=
  (a.facts.borrowsAt (a.points.number p)).mergeSort Facts.pairLe

/-- The live regions, with their owners. -/
def ownedAt (a : Analysis) (p : Point) : Except Failure (List (Region × Option Local)) :=
  (Liveness.sortInts (a.facts.regionsAt (a.points.number p))).mapM fun r => do
    return (r, ← a.owners.ownerOf r)

theorem pointAt_of_mem {l : Location} {phase : Phase} (h : ⟨l, phase⟩ ∈ a.points.points) :
    a.pointAt l phase = .ok (a.points.number ⟨l, phase⟩) := by
  rw [pointAt, PointTable.intern_of_mem h]

theorem borrowsAt_of_mem {l : Location} {phase : Phase} (h : ⟨l, phase⟩ ∈ a.points.points) :
    a.borrowsAt l phase = .ok (a.createdAt ⟨l, phase⟩) := by
  rw [borrowsAt, pointAt_of_mem h]
  rfl

theorem regionsAt_of_mem {l : Location} {phase : Phase} (h : ⟨l, phase⟩ ∈ a.points.points) :
    a.regionsAt l phase = a.ownedAt ⟨l, phase⟩ := by
  rw [regionsAt, pointAt_of_mem h]
  rfl

end Analysis

theorem Facts.mem_borrowsAt {f : Facts} {p : PointIndex} {r : Region} {l : Loan} :
    (r, l) ∈ f.borrowsAt p ↔ (r, l, p) ∈ f.borrowRegion := by
  simp only [borrowsAt, List.mem_filterMap, Prod.exists, Option.ite_none_right_eq_some,
    Option.some_inj, Prod.mk.injEq]
  constructor
  · rintro ⟨_, _, _, h, rfl, rfl, rfl⟩
    exact h
  · intro h
    exact ⟨r, l, p, h, rfl, rfl, rfl⟩

theorem Facts.mem_regionsAt {f : Facts} {p : PointIndex} {r : Region} :
    r ∈ f.regionsAt p ↔ (r, p) ∈ f.regionLiveAt := by
  simp only [regionsAt, List.mem_filterMap, Prod.exists, Option.ite_none_right_eq_some,
    Option.some_inj]
  constructor
  · rintro ⟨_, _, h, rfl, rfl⟩
    exact h
  · intro h
    exact ⟨r, p, h, rfl, rfl⟩

theorem Owners.ownerOf_eq_ok {o : Owners} {r : Region} {n : Option Local} :
    o.ownerOf r = .ok n ↔ o.ownersOf r = n.toList := by
  rw [ownerOf]
  rcases o.ownersOf r with _ | ⟨m, _ | ⟨m', rest⟩⟩
  · cases n <;> simp
  · cases n <;> simp
  · cases n <;> simp

/-- The cell of the live regions holds each of them with its only owner, or with none. -/
theorem Analysis.mem_ownedAt {a : Analysis} {p : Point} {cell : List (Region × Option Local)}
    (h : a.ownedAt p = .ok cell) {r : Region} {n : Option Local} :
    (r, n) ∈ cell ↔
      (r, a.points.number p) ∈ a.facts.regionLiveAt ∧ a.owners.ownersOf r = n.toList := by
  rw [mem_of_mapM_eq_ok h, ← Facts.mem_regionsAt, ← Owners.ownerOf_eq_ok]
  simp only [Liveness.sortInts, List.mem_mergeSort]
  constructor
  · rintro ⟨r', hr', hok⟩
    obtain ⟨n', hn, hpair⟩ := bind_eq_ok.mp hok
    obtain ⟨rfl, rfl⟩ := Prod.mk.inj (Except.ok.inj hpair)
    exact ⟨hr', hn⟩
  · rintro ⟨hr, hn⟩
    exact ⟨r, hr, bind_eq_ok.mpr ⟨n, hn, rfl⟩⟩

/-! ### Lines and records -/

/-- A line of a block: a statement, or the terminator. -/
structure Block.Line where
  location : Location
  text : String
  isTerminator : Bool

/-- The lines of a block: its statements, then its terminator. -/
def Block.lines (b : Block) : List Block.Line :=
  (b.statements.zipIdx.map fun x => ⟨⟨b.index, x.2⟩, x.1.text, false⟩)
    ++ [⟨b.terminatorLocation, (b.terminator.map Terminator.label).getD "", true⟩]

theorem Block.map_location_lines (b : Block) : b.lines.map Line.location = b.locations := by
  have hstatements : (b.statements.zipIdx.map fun x => (⟨b.index, x.2⟩ : Location)) =
      (List.range b.statements.length).map fun (i : Nat) => ⟨b.index, i⟩ := by
    rw [List.range_eq_range', ← List.zipIdx_map_snd, List.map_map]
    rfl
  rw [lines, List.map_append, List.map_map, locations, List.range_succ, List.map_append,
    ← hstatements]
  rfl

theorem Block.map_isTerminator_lines (b : Block) :
    b.lines.map Line.isTerminator = List.replicate b.statements.length false ++ [true] := by
  have hstatements : (b.statements.zipIdx.map fun _ => false) =
      List.replicate b.statements.length false := by
    rw [List.map_const', List.length_zipIdx]
  rw [lines, List.map_append, List.map_map, ← hstatements]
  rfl

namespace Report

variable {a : Analysis} {i : Initialization}

/-- The record of a line. -/
def lineRecord (a : Analysis) (i : Initialization) (x : Block.Line) : Except Failure Record :=
  record a i x.location x.text x.isTerminator

/-- A record shows the cells of its two points. -/
theorem record_eq {l : Location} {text : String} {isTerminator : Bool}
    (hstart : ⟨l, .start⟩ ∈ a.points.points) (hmid : ⟨l, .mid⟩ ∈ a.points.points) :
    record a i l text isTerminator = do
      let start ← a.ownedAt ⟨l, .start⟩
      let mid ← a.ownedAt ⟨l, .mid⟩
      return {
        location := l
        text := text
        isTerminator := isTerminator
        loans := ⟨a.loansAt ⟨l, .start⟩, a.loansAt ⟨l, .mid⟩⟩
        borrows := ⟨a.createdAt ⟨l, .start⟩, a.createdAt ⟨l, .mid⟩⟩
        regions := ⟨start, mid⟩
        initialized := sortTexts (i.afterStatement l) } := by
  rw [record, Analysis.pointAt_of_mem hstart, Analysis.pointAt_of_mem hmid,
    Analysis.borrowsAt_of_mem hstart, Analysis.borrowsAt_of_mem hmid,
    Analysis.regionsAt_of_mem hstart, Analysis.regionsAt_of_mem hmid]
  rfl

theorem statementRecords_eq (block : Int) (statements : List Statement) (index : Nat) :
    statementRecords a i block index statements =
      (statements.zipIdx index).mapM fun x => record a i ⟨block, x.2⟩ x.1.text false := by
  induction statements generalizing index with
  | nil => rfl
  | cons s statements ih =>
    rw [statementRecords, List.zipIdx_cons, List.mapM_cons, ih]

/-- A block has the records of its lines. -/
theorem blockReport_eq (b : Block) :
    blockReport a i b = do
      let records ← b.lines.mapM (lineRecord a i)
      let edges ← b.edges
      return ⟨b.index, sortTexts (i.beforeBlock b.index), records, edges⟩ := by
  rw [blockReport, statementRecords_eq, Block.lines, List.mapM_append, List.mapM_map]
  simp only [List.mapM_cons, List.mapM_nil, bind_assoc, pure_bind]
  rfl

theorem blockReport_eq_ok {b : Block} {br : BlockReport} (h : blockReport a i b = .ok br) :
    br.index = b.index ∧ br.initialized = sortTexts (i.beforeBlock b.index) ∧
      List.Forall₂ (fun x record => lineRecord a i x = .ok record) b.lines br.records := by
  rw [blockReport_eq] at h
  obtain ⟨records, hrecords, h⟩ := bind_eq_ok.mp h
  obtain ⟨edges, -, h⟩ := bind_eq_ok.mp h
  obtain rfl := Except.ok.inj h
  exact ⟨rfl, rfl, mapM_eq_ok.mp hrecords⟩

/-- A report can be built if all points are numbered, no live region has two owners and control
leaves each block in a known way. -/
theorem exists_build {body : Body} (hpoints : Analysis.bodyPoints body ⊆ a.points.points)
    (howners : ∀ x ∈ a.facts.regionLiveAt, (a.owners.ownerOf x.1).isOk = true)
    (hedges : ∀ b ∈ body.blocks, b.edges.isOk = true) (init : Option Initialization)
    (name path : String) : ∃ r, build body a init name path = .ok r := by
  have howned : ∀ p, ∃ cell, a.ownedAt p = .ok cell := by
    intro p
    refine exists_mapM_eq_ok fun r hr => ?_
    rw [Liveness.sortInts, List.mem_mergeSort, Facts.mem_regionsAt] at hr
    obtain ⟨n, hn⟩ := isOk_iff.mp (howners _ hr)
    exact isOk_iff.mpr ⟨(r, n), bind_eq_ok.mpr ⟨n, hn, rfl⟩⟩
  have hline : ∀ b ∈ body.blocks, ∀ x ∈ b.lines,
      (lineRecord a (init.getD .none) x).isOk = true := by
    intro b hb x hx
    have hlocation : x.location ∈ body.locations := by
      refine List.mem_flatMap.mpr ⟨b, hb, ?_⟩
      rw [← Block.map_location_lines]
      exact List.mem_map_of_mem hx
    have hmem : ∀ phase, ⟨x.location, phase⟩ ∈ a.points.points := fun phase =>
      hpoints (Analysis.mem_bodyPoints.mpr hlocation)
    obtain ⟨start, hstart⟩ := howned ⟨x.location, .start⟩
    obtain ⟨mid, hmid⟩ := howned ⟨x.location, .mid⟩
    rw [lineRecord, record_eq (hmem _) (hmem _), hstart, hmid]
    rfl
  obtain ⟨blocks, hblocks⟩ : ∃ blocks,
      body.blocks.mapM (blockReport a (init.getD .none)) = .ok blocks := by
    refine exists_mapM_eq_ok fun b hb => ?_
    obtain ⟨records, hrecords⟩ := exists_mapM_eq_ok (hline b hb)
    obtain ⟨edges, hleaves⟩ := isOk_iff.mp (hedges b hb)
    rw [blockReport_eq, hrecords, hleaves]
    rfl
  exact ⟨_, bind_eq_ok.mpr ⟨blocks, hblocks, rfl⟩⟩

/-- A report has one part for each block, in order. -/
theorem build_eq_ok {body : Body} {init : Option Initialization} {name path : String} {r : Report}
    (h : build body a init name path = .ok r) :
    List.Forall₂ (fun b br => blockReport a (init.getD .none) b = .ok br) body.blocks r.blocks := by
  obtain ⟨blocks, hblocks, h⟩ := bind_eq_ok.mp h
  obtain rfl := Except.ok.inj h
  exact mapM_eq_ok.mp hblocks

/-- A report has one record for each line of the body, in order. -/
theorem records_of_build {body : Body} {init : Option Initialization} {name path : String}
    {r : Report} (h : build body a init name path = .ok r) :
    List.Forall₂ (fun x record => lineRecord a (init.getD .none) x = .ok record)
      (body.blocks.flatMap Block.lines) r.records :=
  List.rel_flatMap (build_eq_ok h) fun _ _ hb => (blockReport_eq_ok hb).2.2

end Report

end BorrowGraph
