/-
When a report cannot be built.

The points of a body are all numbered when its facts are analysed, so building a report never
meets a point without number.  What remains are two things, both of which are noticed block by
block: a region that is live at a point of the block and that two locals own, and a terminator
without edges that could be drawn.

* `Analysis.IsLiveAt`, `Block.HasSharedRegion`, `Block.EndsInGenerator`: the two reasons;
* `Block.RefusedWith`: how a block is refused, where owners go before terminators;
* `RefusedWith.diagnostic`: a refusal is a diagnostic if all that it names can be written;
* `blockReport_cases`: what becomes of one block;
* `build_eq_error`, `build_refused`: what becomes of a body, by its first block that cannot be
  reported;
* `longAnalysis_unreported`: a region with too many digits is not reported.
-/
import BorrowGraph.Proofs.OwnerTables
import BorrowGraph.Proofs.ReportCells

namespace BorrowGraph

/-! ### Regions with two owners -/

namespace Analysis

variable {a : Analysis} {p : Point} {r : Region}

/-- A region is live at a point. -/
def IsLiveAt (a : Analysis) (r : Region) (p : Point) : Prop :=
  ∃ i, a.points.lookup p = some i ∧ (r, i) ∈ a.facts.regionLiveAt

theorem isLiveAt_iff (hp : p ∈ a.points.points) :
    a.IsLiveAt r p ↔ r ∈ a.facts.regionsAt (a.points.number p) := by
  rw [IsLiveAt, PointTable.lookup_eq, if_pos hp, Facts.mem_regionsAt]
  simp

/-- The refusal of a region that is live at a point and that two locals own. -/
inductive SharedAt (a : Analysis) (p : Point) : Failure → Prop where
  | intro {r : Region} {n m : Local} (hlive : a.IsLiveAt r p) (hne : n ≠ m)
      (hn : a.owners.regionOf n = some r) (hm : a.owners.regionOf m = some r) :
      SharedAt a p (Owners.sharedFailure r n m)

variable (howners : a.owners.IsKeyed) (hp : p ∈ a.points.points)
include howners hp

/-- The cell of the live regions is refused for one of them that has two owners. -/
theorem sharedAt_of_ownedAt {e : Failure} (h : a.ownedAt p = .error e) : a.SharedAt p e := by
  obtain ⟨before, r, after, hsplit, -, hr⟩ := mapM_eq_error h
  have hlive : a.IsLiveAt r p := by
    have hsorted : r ∈ Liveness.sortInts (a.facts.regionsAt (a.points.number p)) := by
      rw [hsplit]
      simp
    rw [isLiveAt_iff hp]
    exact List.mem_mergeSort.mp hsorted
  rcases bind_eq_error.mp hr with hr | ⟨n, -, hr⟩
  · obtain ⟨n, m, hne, hn, hm, rfl⟩ := Owners.ownerOf_eq_error howners hr
    exact .intro hlive hne hn hm
  · cases hr

/-- In a cell that can be shown no live region has two owners. -/
theorem not_isShared_of_ownedAt {cell : List (Region × Option Local)} (h : a.ownedAt p = .ok cell)
    (hr : a.IsLiveAt r p) : ¬ a.owners.IsShared r := by
  intro hshared
  obtain ⟨d, hd⟩ := Owners.ownerOf_of_isShared howners hshared
  have hmem : r ∈ Liveness.sortInts (a.facts.regionsAt (a.points.number p)) := by
    rw [Liveness.sortInts, List.mem_mergeSort]
    exact (isLiveAt_iff hp).mp hr
  obtain ⟨d', hd'⟩ := exists_error_of_mem (f := fun r => do return (r, ← a.owners.ownerOf r)) hmem
    (bind_eq_error.mpr (.inl hd))
  rw [show a.ownedAt p = .error d' from hd'] at h
  cases h

end Analysis

theorem Analysis.SharedAt.isShared {a : Analysis} {p : Point} {e : Failure}
    (h : a.SharedAt p e) : ∃ r, a.IsLiveAt r p ∧ a.owners.IsShared r := by
  cases h with
  | intro hlive hne hn hm => exact ⟨_, hlive, _, _, hne, hn, hm⟩

/-- All locals with a region and all their regions can be written. -/
def Owners.IsWritable (o : Owners) : Prop :=
  ∀ n r, o.regionOf n = some r → Decimal.fits n = true ∧ Decimal.fits r = true

/-- If all names can be written, two owners are reported. -/
theorem Analysis.SharedAt.diagnostic {a : Analysis} {p : Point} {e : Failure}
    (h : a.SharedAt p e) (ho : a.owners.IsWritable) :
    ∃ d, e = .diagnostic d ∧ d.code = .duplicateRegionOwner := by
  cases h with
  | @intro r n m hlive hne hn hm =>
    obtain ⟨hn, hr⟩ := ho n r hn
    obtain ⟨hm, -⟩ := ho m r hm
    refine ⟨Owners.sharedDiagnostic r n m, ?_, rfl⟩
    rw [Owners.sharedFailure, hr, hn, hm]
    rfl

/-! ### Blocks that cannot be reported -/

namespace Block

/-- A region is live at a point of a block and has two owners. -/
def HasSharedRegion (b : Block) (a : Analysis) : Prop :=
  ∃ l ∈ b.locations, ∃ phase r, a.IsLiveAt r ⟨l, phase⟩ ∧ a.owners.IsShared r

/-- Control leaves a block as it leaves a generator. -/
def EndsInGenerator (b : Block) : Prop :=
  ∃ t, b.terminator = some t ∧ (t.kind = .yield ∨ t.kind = .generatorDrop)

/-- How a block that cannot be reported is refused. -/
inductive RefusedWith (b : Block) (a : Analysis) : Failure → Prop where
  | shared {l : Location} {phase : Phase} {e : Failure} (hl : l ∈ b.locations)
      (he : a.SharedAt ⟨l, phase⟩ e) : RefusedWith b a e
  | generator {t : Terminator} (howners : ¬ b.HasSharedRegion a) (ht : b.terminator = some t)
      (hkind : t.kind = .yield ∨ t.kind = .generatorDrop) :
      RefusedWith b a (unsupportedFailure t.kind.text b.index)

namespace RefusedWith

variable {b : Block} {a : Analysis} {e : Failure}

theorem reason (h : b.RefusedWith a e) : b.HasSharedRegion a ∨ b.EndsInGenerator := by
  cases h with
  | @shared l phase _ hl he =>
    obtain ⟨r, hr⟩ := he.isShared
    exact .inl ⟨l, hl, phase, r, hr⟩
  | @generator t _ ht hkind => exact .inr ⟨t, ht, hkind⟩

/-- Owners go before terminators. -/
theorem diagnostic (h : b.RefusedWith a e) (ho : a.owners.IsWritable)
    (hb : Decimal.fits b.index = true) : ∃ d, e = .diagnostic d ∧
      (b.HasSharedRegion a ∧ d.code = .duplicateRegionOwner ∨
        ¬ b.HasSharedRegion a ∧ d.code = .unsupportedTerminator) := by
  cases h with
  | @shared l phase _ hl he =>
    obtain ⟨r, hr⟩ := he.isShared
    obtain ⟨d, hd, hcode⟩ := he.diagnostic ho
    exact ⟨d, hd, .inl ⟨⟨l, hl, phase, r, hr⟩, hcode⟩⟩
  | @generator t howners =>
    refine ⟨unsupportedTerminator t.kind.text b.index, ?_, .inr ⟨howners, rfl⟩⟩
    rw [unsupportedFailure, if_pos hb]

/-- No refusal is about the number of a point. -/
theorem numbered (h : b.RefusedWith a e) {d : Diagnostic} (hd : e = .diagnostic d) :
    d.code ≠ .pointsFrozen ∧ d.code ≠ .unknownPoint := by
  have hcode : d.code = .duplicateRegionOwner ∨ d.code = .unsupportedTerminator := by
    cases h with
    | shared hl he =>
      cases he
      rw [Owners.sharedFailure] at hd
      split at hd
      · exact .inl (congrArg Diagnostic.code (Failure.diagnostic.inj hd).symm)
      · cases hd
    | generator =>
      rw [unsupportedFailure] at hd
      split at hd
      · exact .inr (congrArg Diagnostic.code (Failure.diagnostic.inj hd).symm)
      · cases hd
  rcases hcode with hcode | hcode
  · rw [hcode]
    decide
  · rw [hcode]
    decide

end RefusedWith

/-- The edges of a block are known unless it ends as in a generator. -/
theorem edges_cases (b : Block) :
    (∃ edges, b.edges = .ok edges) ∧ ¬ b.EndsInGenerator ∨
      ∃ t, b.terminator = some t ∧ (t.kind = .yield ∨ t.kind = .generatorDrop) ∧
        b.edges = .error (unsupportedFailure t.kind.text b.index) := by
  rw [edges, EndsInGenerator]
  rcases b.terminator with _ | t
  · exact .inl ⟨⟨[], rfl⟩, by simp⟩
  · simp only [Terminator.edges, Option.some_inj, exists_eq_left']
    rcases hkind : t.kind with _ | _ | _ | _ | _ | _ | _ | _ | _ | _ | _ | _ | _ | _ <;> simp

end Block

/-! ### Reports that cannot be built -/

namespace Report

variable {a : Analysis} {i : Initialization}

section Points

variable (howners : a.owners.IsKeyed)
include howners

theorem lineRecord_cases {x : Block.Line}
    (hpoints : ∀ phase, ⟨x.location, phase⟩ ∈ a.points.points) :
    (∃ record, lineRecord a i x = .ok record) ∧
        (∀ phase r, a.IsLiveAt r ⟨x.location, phase⟩ → ¬ a.owners.IsShared r) ∨
      ∃ phase d, lineRecord a i x = .error d ∧ a.SharedAt ⟨x.location, phase⟩ d := by
  rw [lineRecord, record_eq (hpoints .start) (hpoints .mid)]
  rcases hstart : a.ownedAt ⟨x.location, .start⟩ with d | start
  · exact .inr ⟨.start, d, rfl, Analysis.sharedAt_of_ownedAt howners (hpoints _) hstart⟩
  · rcases hmid : a.ownedAt ⟨x.location, .mid⟩ with d | mid
    · exact .inr ⟨.mid, d, rfl, Analysis.sharedAt_of_ownedAt howners (hpoints _) hmid⟩
    · refine .inl ⟨⟨_, rfl⟩, fun phase r hr => ?_⟩
      cases phase with
      | start => exact Analysis.not_isShared_of_ownedAt howners (hpoints _) hstart hr
      | mid => exact Analysis.not_isShared_of_ownedAt howners (hpoints _) hmid hr

/-- A block is reported or refused. -/
theorem blockReport_cases {b : Block}
    (hpoints : ∀ l ∈ b.locations, ∀ phase, ⟨l, phase⟩ ∈ a.points.points) :
    (∃ part, blockReport a i b = .ok part) ∧ ¬ (b.HasSharedRegion a ∨ b.EndsInGenerator) ∨
      ∃ d, blockReport a i b = .error d ∧ b.RefusedWith a d := by
  have hlocation : ∀ x ∈ b.lines, x.location ∈ b.locations := fun x hx => by
    rw [← Block.map_location_lines]
    exact List.mem_map_of_mem hx
  have hlines : ∀ x ∈ b.lines, _ := fun x hx =>
    lineRecord_cases (i := i) howners (hpoints _ (hlocation x hx))
  rw [blockReport_eq]
  rcases hrecords : b.lines.mapM (lineRecord a i) with d | records
  · obtain ⟨before, x, after, hsplit, -, hx⟩ := mapM_eq_error hrecords
    have hmem : x ∈ b.lines := by simp [hsplit]
    rcases hlines x hmem with ⟨⟨record, hok⟩, -⟩ | ⟨phase, d', hd', hshared⟩
    · rw [hok] at hx
      cases hx
    · rw [hd', Except.error.injEq] at hx
      subst hx
      exact .inr ⟨d', rfl, .shared (hlocation x hmem) hshared⟩
  · -- All lines are shown, so no region of the block has two owners and its edges decide.
    have hnone : ¬ b.HasSharedRegion a := by
      rintro ⟨l, hl, phase, r, hlive, hr⟩
      rw [← Block.map_location_lines] at hl
      obtain ⟨x, hx, rfl⟩ := List.mem_map.mp hl
      rcases hlines x hx with ⟨-, hfree⟩ | ⟨_, d, hd, -⟩
      · exact hfree phase r hlive hr
      · obtain ⟨d', hd'⟩ := exists_error_of_mem hx hd
        rw [hrecords] at hd'
        cases hd'
    rcases b.edges_cases with ⟨⟨edges, hedges⟩, hend⟩ | ⟨t, ht, hkind, hedges⟩
    · exact .inl ⟨⟨_, by rw [hedges]; rfl⟩, fun h => h.elim hnone hend⟩
    · exact .inr ⟨_, by rw [hedges]; rfl, .generator hnone ht hkind⟩

variable {body : Body} (hpoints : ∀ q : Point, q.location ∈ body.locations → q ∈ a.points.points)
include hpoints

theorem blockReport_cases_of_mem {b : Block} (hb : b ∈ body.blocks) :
    (∃ part, blockReport a i b = .ok part) ∧ ¬ (b.HasSharedRegion a ∨ b.EndsInGenerator) ∨
      ∃ d, blockReport a i b = .error d ∧ b.RefusedWith a d :=
  blockReport_cases howners fun l hl phase =>
    hpoints ⟨l, phase⟩ (List.mem_flatMap.mpr ⟨b, hb, hl⟩)

variable {init : Option Initialization} {name path : String}

/-- A report is refused for the first block that cannot be reported. -/
theorem build_eq_error {e : Failure} (h : build body a init name path = .error e) :
    ∃ before b after, body.blocks = before ++ b :: after ∧
      (∀ c ∈ before, ¬ (c.HasSharedRegion a ∨ c.EndsInGenerator)) ∧ b.RefusedWith a e := by
  have hblocks : body.blocks.mapM (blockReport a (init.getD .none)) = .error e := by
    rcases bind_eq_error.mp h with h | ⟨_, -, h⟩
    · exact h
    · cases h
  obtain ⟨before, b, after, hsplit, hbefore, hb⟩ := mapM_eq_error hblocks
  have hmem : ∀ c ∈ before ++ [b], c ∈ body.blocks := by
    intro c hc
    rw [hsplit, List.append_cons]
    exact List.mem_append_left _ hc
  refine ⟨before, b, after, hsplit, fun c hc => ?_, ?_⟩
  · obtain ⟨part, hpart⟩ := hbefore c hc
    rcases blockReport_cases_of_mem howners hpoints (hmem c (by simp [hc])) with
      ⟨-, hnot⟩ | ⟨d', hd', -⟩
    · exact hnot
    · rw [hpart] at hd'
      cases hd'
  · rcases blockReport_cases_of_mem howners hpoints (hmem b (by simp)) with
      ⟨⟨part, hpart⟩, -⟩ | ⟨d', hd', hwith⟩
    · rw [hb] at hpart
      cases hpart
    · rw [hb, Except.error.injEq] at hd'
      exact hd' ▸ hwith

/-- A report is refused if one of its blocks cannot be reported. -/
theorem exists_build_error {b : Block} (hb : b ∈ body.blocks)
    (hreason : b.HasSharedRegion a ∨ b.EndsInGenerator) :
    ∃ d, build body a init name path = .error d := by
  rcases blockReport_cases_of_mem (i := init.getD .none) howners hpoints hb with
    ⟨-, hnot⟩ | ⟨d, hd, -⟩
  · exact absurd hreason hnot
  · obtain ⟨d', hd'⟩ := exists_error_of_mem hb hd
    exact ⟨d', bind_eq_error.mpr (.inl hd')⟩

end Points

/-- **When a report is refused.**  For an analysis that succeeds, building the report of its
body fails just when some block has a live region with two owners or ends as in a generator.
It is refused for the first such block, where a region with two owners goes before the
terminator, and with a diagnostic if all names can be written; never because a point has no
number.  Regions with two owners that are live at no point of the body do not matter. -/
theorem build_refused {σ : Type} {s : σ} {body : Body} {store : FactStore} {owners : Owners}
    {solver : Solver} (howners : owners.IsKeyed)
    (ha : ((Analysis.ofFacts body store owners solver : Task σ Analysis).start s).1 = .ok a)
    (init : Option Initialization) (name path : String) :
    ((∃ e, build body a init name path = .error e) ↔
        ∃ b ∈ body.blocks, b.HasSharedRegion a ∨ b.EndsInGenerator) ∧
      (∀ e, build body a init name path = .error e →
        (∃ before b after, body.blocks = before ++ b :: after ∧
          (∀ c ∈ before, ¬ (c.HasSharedRegion a ∨ c.EndsInGenerator)) ∧ b.RefusedWith a e ∧
          (owners.IsWritable → Decimal.fits b.index = true → ∃ d, e = .diagnostic d ∧
            (b.HasSharedRegion a ∧ d.code = .duplicateRegionOwner ∨
              ¬ b.HasSharedRegion a ∧ d.code = .unsupportedTerminator))) ∧
        ∀ d, e = .diagnostic d → d.code ≠ .pointsFrozen ∧ d.code ≠ .unknownPoint) ∧
      ((∀ r, owners.IsShared r → ∀ l ∈ body.locations, ∀ phase, ¬ a.IsLiveAt r ⟨l, phase⟩) →
        (∀ b ∈ body.blocks, ¬ b.EndsInGenerator) →
        ∃ r, build body a init name path = .ok r) := by
  have hof := Analysis.ofFacts_eq_ok ha
  obtain rfl := hof.owners
  have hpoints : ∀ q : Point, q.location ∈ body.locations → q ∈ a.points.points :=
    fun q hq => (hof.points_iff q).mpr (.inr hq)
  refine ⟨⟨fun ⟨d, hd⟩ => ?_, fun ⟨b, hb, hreason⟩ => ?_⟩, fun d hd => ?_, fun hshared hends => ?_⟩
  · obtain ⟨before, b, after, hsplit, -, hb⟩ := build_eq_error howners hpoints hd
    exact ⟨b, by simp [hsplit], hb.reason⟩
  · exact exists_build_error howners hpoints hb hreason
  · obtain ⟨before, b, after, hsplit, hbefore, hb⟩ := build_eq_error howners hpoints hd
    exact ⟨⟨before, b, after, hsplit, hbefore, hb, hb.diagnostic⟩, fun _ => hb.numbered⟩
  · rcases h : build body a init name path with d | r
    · obtain ⟨before, b, after, hsplit, -, hb⟩ := build_eq_error howners hpoints h
      have hmem : b ∈ body.blocks := by simp [hsplit]
      rcases hb.reason with ⟨l, hl, phase, r, hlive, hr⟩ | hend
      · exact absurd hlive (hshared r hr l (List.mem_flatMap.mpr ⟨b, hmem, hl⟩) phase)
      · exact absurd hend (hends b hmem)
    · exact ⟨r, rfl⟩

/-- The second block yields, and region 5 is live before that. -/
def yieldBody : Body :=
  { blocks := [⟨0, [], some { kind := .goto, targets := [1] }⟩,
      ⟨1, [{ kind := .nop }], some { kind := .yield }⟩] }

def yieldStore : FactStore :=
  { facts := { regionLiveAt := [(5, 0)] }, points := .ofPoints [⟨⟨1, 0⟩, .mid⟩] }

/-- Regions 5 and 7 have two owners each. -/
def sharingOwners : Owners := ⟨[(1, 5), (2, 7), (3, 5), (4, 7)]⟩

def yieldAnalysis : Analysis :=
  { facts := yieldStore.facts
    output := {}
    points := (PointTable.ofPoints [⟨⟨1, 0⟩, .mid⟩, ⟨⟨0, 0⟩, .start⟩, ⟨⟨0, 0⟩, .mid⟩,
      ⟨⟨1, 0⟩, .start⟩, ⟨⟨1, 1⟩, .start⟩, ⟨⟨1, 1⟩, .mid⟩]).freeze
    owners := sharingOwners
    completion := {} }

theorem eligible_yieldStore : Completion.eligible yieldStore.facts = [] := by
  cbv

theorem resultOf_yieldStore :
    Analysis.resultOf yieldBody yieldStore sharingOwners (.bounded 9) = .ok yieldAnalysis := by
  refine Analysis.resultOf_eq_ok_iff.mpr ⟨by decide, ?_, ?_, ?_, by cbv, rfl⟩
  · rw [Completion.run, eligible_yieldStore]
    decide
  · rw [Completion.run, eligible_yieldStore]
    decide
  · rw [Completion.run, eligible_yieldStore]
    decide

theorem yieldAnalysis_refused :
    sharingOwners.IsKeyed ∧
      ((Analysis.ofFacts yieldBody yieldStore sharingOwners (.bounded 9) :
        Task Unit Analysis).start ()).1 = .ok yieldAnalysis ∧
      sharingOwners.IsWritable ∧ (∀ b ∈ yieldBody.blocks, Decimal.fits b.index = true) ∧
      ∃ d, build yieldBody yieldAnalysis none "gen" "" = .error (.diagnostic d) ∧
        d.code ≠ .pointsFrozen := by
  have howners : sharingOwners.IsKeyed := by simp [Owners.IsKeyed, sharingOwners]
  have ha : ((Analysis.ofFacts yieldBody yieldStore sharingOwners (.bounded 9) :
      Task Unit Analysis).start ()).1 = .ok yieldAnalysis := by
    rw [(Analysis.ofFacts_yields _ _ _ _ ()).start.1, resultOf_yieldStore]
  have hwritable : sharingOwners.IsWritable := by
    intro n r h
    have hmem : (n, r) ∈ sharingOwners.regions := (Assoc.get?_eq_some_iff howners).mp h
    simp only [sharingOwners, List.mem_cons, Prod.mk.injEq, List.not_mem_nil, or_false] at hmem
    rcases hmem with ⟨rfl, rfl⟩ | ⟨rfl, rfl⟩ | ⟨rfl, rfl⟩ | ⟨rfl, rfl⟩ <;> decide
  have hblocks : ∀ b ∈ yieldBody.blocks, Decimal.fits b.index = true := by decide
  obtain ⟨hiff, hfirst, -⟩ := build_refused howners ha none "gen" ""
  obtain ⟨e, he⟩ := hiff.mpr ⟨⟨1, [{ kind := .nop }], some { kind := .yield }⟩,
    by simp [yieldBody],
    .inl ⟨⟨1, 0⟩, by decide, .mid, 5, ⟨0, by decide, by decide⟩, 1, 3, by decide, rfl, rfl⟩⟩
  obtain ⟨⟨before, b, after, hsplit, -, -, hdiagnostic⟩, hcodes⟩ := hfirst e he
  obtain ⟨d, rfl, -⟩ := hdiagnostic hwritable (hblocks b (by simp [hsplit]))
  exact ⟨howners, ha, hwritable, hblocks, d, he, (hcodes d rfl).1⟩

/-- A block in which a region with 4301 digits is live. -/
def longBody : Body :=
  { blocks := [⟨0, [], some { kind := .return }⟩] }

def longStore : FactStore :=
  { facts := { regionLiveAt := [(Decimal.firstLong, 0)] }, points := .empty }

def longOwners : Owners := ⟨[(1, Decimal.firstLong), (3, Decimal.firstLong)]⟩

def longAnalysis : Analysis :=
  { facts := longStore.facts
    output := {}
    points := (PointTable.ofPoints [⟨⟨0, 0⟩, .start⟩, ⟨⟨0, 0⟩, .mid⟩]).freeze
    owners := longOwners
    completion := {} }

theorem resultOf_longStore :
    Analysis.resultOf longBody longStore longOwners (.fixed {}) = .ok longAnalysis := by
  have heligible : Completion.eligible longStore.facts = [] := by
    simp [Completion.eligible, Facts.outlivesPoints, longStore]
  refine Analysis.resultOf_eq_ok_iff.mpr ⟨by decide, ?_, ?_, ?_, rfl, rfl⟩
  · rw [Completion.run, heligible]
    rfl
  · rw [Completion.run, heligible]
    rfl
  · rw [Completion.run, heligible]
    rfl

/-- Two owners of a region that cannot be written are not reported by their code. -/
theorem longAnalysis_unreported :
    ((Analysis.ofFacts longBody longStore longOwners (.fixed {}) :
        Task Unit Analysis).start ()).1 = .ok longAnalysis ∧
      (∃ b ∈ longBody.blocks, b.HasSharedRegion longAnalysis) ∧
      build longBody longAnalysis none "f" "" = .error (.fault .tooLargeToWrite) := by
  have ha : ((Analysis.ofFacts longBody longStore longOwners (.fixed {}) :
      Task Unit Analysis).start ()).1 = .ok longAnalysis := by
    rw [(Analysis.ofFacts_yields _ _ _ _ ()).start.1, resultOf_longStore]
  have hshared : (⟨0, [], some { kind := .return }⟩ : Block).HasSharedRegion longAnalysis :=
    ⟨⟨0, 0⟩, by decide, .start, Decimal.firstLong, ⟨0, by decide, List.mem_singleton_self _⟩,
      1, 3, by decide, rfl, rfl⟩
  have hpoints : ∀ q : Point, q.location ∈ longBody.locations → q ∈ longAnalysis.points.points :=
    fun q hq => ((Analysis.ofFacts_eq_ok ha).points_iff q).mpr (.inr hq)
  have howners : longAnalysis.owners.IsKeyed := by
    simp [Owners.IsKeyed, longAnalysis, longOwners]
  obtain ⟨e, he⟩ : ∃ e, build longBody longAnalysis none "f" "" = .error e :=
    exists_build_error howners hpoints (List.mem_singleton_self _) (.inl hshared)
  obtain ⟨before, b, after, hsplit, -, hb⟩ := build_eq_error howners hpoints he
  have hmem : b ∈ longBody.blocks := by simp [hsplit]
  obtain rfl := List.mem_singleton.mp hmem
  refine ⟨ha, ⟨_, hmem, hshared⟩, he.trans (congrArg Except.error ?_)⟩
  cases hb with
  | generator hnone => exact absurd hshared hnone
  | shared hl hat =>
    cases hat with
    | @intro r n m hlive hne hn hm =>
      have hr : (n, r) ∈ longOwners.regions := (Assoc.get?_eq_some_iff howners).mp hn
      have hlong : r = Decimal.firstLong := by
        simp only [longOwners, List.mem_cons, Prod.mk.injEq, List.not_mem_nil, or_false] at hr
        exact hr.elim And.right And.right
      rw [Owners.sharedFailure, hlong, Decimal.fits_firstLong]
      rfl

end Report
end BorrowGraph
