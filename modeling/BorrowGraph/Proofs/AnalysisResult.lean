/-
What an analysis consists of.

The computation that analyses a function keeps a log, but its result does not depend on it:
`resultOf` is that result (`ofFacts_yields`).  An analysis that succeeds has numbered all
points of the body, has completed the facts and has asked the solver about the completed ones
(`IsOf`, `ofFacts_eq_ok`).

Two facts about completion are read off here for later use: a pass that succeeds keeps all
facts except the creation of loans (`run_regionLiveAt`), and each loan it has issued is created
once, at a point of the body (`run_created_once`).
-/
import BorrowGraph.Proofs.CompletionPlan
import BorrowGraph.Proofs.Numbering
import BorrowGraph.Proofs.Results
import BorrowGraph.Proofs.Tasks

namespace BorrowGraph

/-! ### The result of an analysis -/

namespace Analysis

/-- What an analysis of facts results in. -/
def resultOf (body : Body) (store : FactStore) (owners : Owners) (solver : Solver) :
    Except Failure Analysis := do
  let points ← numberPoints store.points body
  match Completion.run store.facts points body owners with
  | (_, some e) => .error e
  | (pass, none) =>
    let output ← (solver pass.facts).result.mapError .fault
    return ⟨pass.facts, output, points, owners, pass.issued⟩

theorem ofFacts_yields {σ : Type} (body : Body) (store : FactStore) (owners : Owners)
    (solver : Solver) (s : σ) :
    (ofFacts body store owners solver).Yields s (resultOf body store owners solver) s := by
  rw [ofFacts, resultOf]
  rcases numberPoints store.points body with e | points
  · exact (Task.yields_ofExcept s _).bind_error
  · refine (Task.yields_ofExcept s _).bind ?_
    rw [ok_bind]
    rcases Completion.run store.facts points body owners with ⟨pass, _ | e⟩
    · refine (Task.yields_forM_note _ s).bind ((Task.yields_forM_note _ s).bind ?_)
      simp only
      rcases (solver pass.facts).result.mapError Failure.fault with e | output
      · exact (Task.yields_ofExcept s _).bind_error
      · exact (Task.yields_ofExcept s _).bind (Task.yields_pure s _)
    · exact (Task.yields_forM_note _ s).bind (Task.yields_throw s e)

/-- The parts of an analysis. -/
structure IsOf (a : Analysis) (body : Body) (store : FactStore) (owners : Owners)
    (solver : Solver) : Prop where
  /-- All points of the store keep their numbers. -/
  appended : store.points.points <+: a.points.points
  points_iff : ∀ q, q ∈ a.points.points ↔
    q ∈ store.points.points ∨ q.location ∈ body.locations
  completed : (Completion.run store.facts a.points body owners).2 = none
  facts : a.facts = (Completion.run store.facts a.points body owners).1.facts
  completion : a.completion = (Completion.run store.facts a.points body owners).1.issued
  output : (solver a.facts).result = .ok a.output
  owners : a.owners = owners

variable {a : Analysis} {body : Body} {store : FactStore} {owners : Owners} {solver : Solver}

theorem resultOf_eq_ok_iff :
    resultOf body store owners solver = .ok a ↔ numberPoints store.points body = .ok a.points ∧
      (Completion.run store.facts a.points body owners).2 = none ∧
      a.facts = (Completion.run store.facts a.points body owners).1.facts ∧
      a.completion = (Completion.run store.facts a.points body owners).1.issued ∧
      (solver a.facts).result = .ok a.output ∧ a.owners = owners := by
  rw [resultOf]
  constructor
  · intro h
    obtain ⟨points, hpoints, h⟩ := bind_eq_ok.mp h
    rcases hrun : Completion.run store.facts points body owners with ⟨pass, _ | e⟩
    · rw [hrun] at h
      obtain ⟨output, houtput, h⟩ := bind_eq_ok.mp h
      obtain rfl := Except.ok.inj h
      exact ⟨hpoints, by rw [hrun], by rw [hrun], by rw [hrun],
        mapError_eq_ok.mp houtput, rfl⟩
    · simp [hrun] at h
  · rintro ⟨hpoints, hdone, hfacts, hissued, houtput, howners⟩
    refine bind_eq_ok.mpr ⟨a.points, hpoints, ?_⟩
    rcases hrun : Completion.run store.facts a.points body owners with ⟨pass, _ | e⟩
    · rw [hrun] at hfacts hissued
      simp only at hfacts hissued
      rw [hfacts] at houtput
      refine bind_eq_ok.mpr ⟨a.output, mapError_eq_ok.mpr houtput, ?_⟩
      rw [← hfacts, ← hissued, ← howners]
      rfl
    · simp [hrun] at hdone

/-- An analysis that succeeds has all its parts. -/
theorem ofFacts_eq_ok {σ : Type} {s : σ}
    (h : ((ofFacts body store owners solver : Task σ Analysis).start s).1 = .ok a) :
    a.IsOf body store owners solver := by
  rw [(ofFacts_yields body store owners solver s).start.1] at h
  obtain ⟨hpoints, hdone, hfacts, hissued, houtput, howners⟩ := resultOf_eq_ok_iff.mp h
  obtain ⟨happended, hmem⟩ := numberPoints_eq_ok hpoints
  refine ⟨happended, fun q => ?_, hdone, hfacts, hissued, houtput, howners⟩
  rw [hmem, mem_bodyPoints]

end Analysis

/-! ### Completed facts -/

namespace Completion

/-- All loans that were issued. -/
def loans (c : Completion) : List Loan :=
  c.referenceMoves ++ c.argumentMoves ++ c.callResults.map Prod.fst

/-- Each issued loan is recorded under its origin. -/
theorem mem_loans_withIssued {first : Loan} {items : List (PointIndex × Issue)} {l : Loan} :
    l ∈ (({} : Completion).withIssued (numbered first items)).loans ↔
      ∃ x ∈ numbered first items, x.loan = l := by
  rw [loans, callResults_withIssued]
  simp only [withIssued, List.nil_append, List.mem_append, List.mem_map, List.mem_filterMap]
  constructor
  · rintro ((⟨x, hx, h⟩ | ⟨x, hx, h⟩) | ⟨y, ⟨x, hx, h⟩, rfl⟩)
    · refine ⟨x, hx, ?_⟩
      rw [Issued.move?] at h
      split at h
      · exact Option.some_inj.mp h
      · cases h
    · refine ⟨x, hx, ?_⟩
      rw [Issued.argument?] at h
      split at h
      · exact Option.some_inj.mp h
      · cases h
    · refine ⟨x, hx, ?_⟩
      rw [Issued.result?] at h
      split at h
      · rw [← Option.some_inj.mp h]
      · cases h
  · rintro ⟨⟨loan, p, ⟨origin, region⟩⟩, hx, rfl⟩
    cases origin with
    | result target => exact .inr ⟨(loan, target), ⟨_, hx, rfl⟩, rfl⟩
    | argument second => exact .inl (.inr ⟨_, hx, rfl⟩)
    | move first => exact .inl (.inl ⟨_, hx, rfl⟩)

variable {f : Facts} {table : PointTable} {body : Body} {owners : Owners}

/-- A pass that succeeds has issued what is planned for the eligible points. -/
theorem run_adds {results : List (Loan × Local)} (h : (run f table body owners results).2 = none) :
    ∃ plan, plan.map Prod.fst = eligiblePoints f ∧ (∀ x ∈ plan, IsIssued f table body owners x) ∧
      (startPass f results).Adds (planned plan) (run f table body owners results).1 := by
  have hends := run_ends f table body owners results
  rw [h] at hends
  cases hends with
  | @done plan hpoints hplan hadds => exact ⟨plan, hpoints, hplan, hadds⟩

theorem run_regionLiveAt (h : (run f table body owners).2 = none) :
    (run f table body owners).1.facts.regionLiveAt = f.regionLiveAt := by
  obtain ⟨plan, -, -, hadds⟩ := run_adds h
  rw [hadds.facts]
  rfl

/-- In a list whose keys ascend, a key picks out its entry. -/
theorem filter_eq_singleton {xs : List Issued} (h : xs.Pairwise fun x y => x.loan < y.loan)
    {x : Issued} (hx : x ∈ xs) : xs.filter (fun y => y.loan = x.loan) = [x] := by
  induction xs with
  | nil => exact absurd hx List.not_mem_nil
  | cons y xs ih =>
    rw [List.pairwise_cons] at h
    rcases List.mem_cons.mp hx with rfl | hx
    · have hrest : xs.filter (fun z => z.loan = x.loan) = [] := by
        rw [List.filter_eq_nil_iff]
        intro z hz heq
        exact absurd (of_decide_eq_true heq) (ne_of_gt (h.1 z hz))
      rw [List.filter_cons_of_pos (by simp), hrest]
    · rw [List.filter_cons_of_neg (by simpa using ne_of_lt (h.1 x hx)), ih h.2 hx]

/-- Each loan that a pass has issued is created by one tuple, at a point of the body. -/
theorem run_created_once (h : (run f table body owners).2 = none) {l : Loan}
    (hl : l ∈ (run f table body owners).1.issued.loans) :
    ∃ t, (run f table body owners).1.facts.borrowRegion.filter (fun t => t.2.1 = l) = [t] ∧
      ∃ place, table.resolve t.2.2 = .ok place ∧ body.contains place.location = true := by
  obtain ⟨plan, hpoints, hplan, hadds⟩ := run_adds h
  have hissued : (run f table body owners).1.issued =
      ({} : Completion).withIssued (numbered (firstLoan f) (planned plan)) := hadds.issued
  rw [hissued, mem_loans_withIssued] at hl
  obtain ⟨x, hx, rfl⟩ := hl
  refine ⟨x.tuple, ?_, ?_⟩
  · -- The loan is new, so only what was issued creates it, and that under different numbers.
    have hold : f.borrowRegion.filter (fun t => t.2.1 = x.loan) = [] := by
      rw [List.filter_eq_nil_iff]
      rintro ⟨r, l, p⟩ ht heq
      refine not_mentions_of_mem_numbered (isFirstLoan_firstLoan f) hx (.inl ⟨r, p, ?_⟩)
      rw [← of_decide_eq_true heq]
      exact ht
    have hnew := filter_eq_singleton (ascending_numbered (firstLoan f) (planned plan)) hx
    have hmap : ((numbered (firstLoan f) (planned plan)).map Issued.tuple).filter
        (fun t => t.2.1 = x.loan) = [x.tuple] := by
      rw [List.filter_map]
      exact congrArg (List.map Issued.tuple) hnew
    rw [hadds.facts]
    show (((numbered (firstLoan f) (planned plan)).map Issued.tuple).reverse
      ++ f.borrowRegion).filter _ = _
    rw [List.filter_append, hold, List.append_nil, List.filter_reverse, hmap]
    rfl
  · have hpoint : x.point ∈ (planned plan).map Prod.fst := by
      rw [← map_point_numbered (firstLoan f)]
      exact List.mem_map_of_mem hx
    obtain ⟨y, hy, hpoint⟩ := List.mem_map.mp hpoint
    obtain ⟨z, hz, hy⟩ := List.mem_flatMap.mp hy
    obtain ⟨i, -, rfl⟩ := List.mem_map.mp hy
    obtain ⟨place, hplace, hin, -⟩ := hplan z hz
    have hpoint' : x.tuple.2.2 = z.1 := hpoint.symm
    exact ⟨place, by rw [hpoint', hplace], hin⟩

end Completion
end BorrowGraph
