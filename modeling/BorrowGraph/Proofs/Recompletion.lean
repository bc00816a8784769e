/-
Completion is idempotent.

A second pass over the facts that a first one has left finds at each point what the first one
found there: the outlives pairs, the location and the owners are the same.  A point that got a
loan is not eligible any more, so a point that was visited and stays eligible is one for which
nothing is planned.  The second pass visits these idle points (`eligiblePoints_withIssued`) and
adds nothing:

* `run_again`: it succeeds where the first pass succeeded, and it stops with the same
  diagnostic where the first pass stopped.
-/
import BorrowGraph.Proofs.CompletionPlan

namespace BorrowGraph.Completion

/-! ### Idle points -/

/-- The points of a plan for which nothing is issued. -/
def idle (plan : List (PointIndex × List Issue)) : List (PointIndex × List Issue) :=
  plan.filter fun x => x.2.isEmpty

theorem mem_idle {plan : List (PointIndex × List Issue)} {x : PointIndex × List Issue} :
    x ∈ idle plan ↔ x ∈ plan ∧ x.2 = [] := by
  rw [idle, List.mem_filter, List.isEmpty_iff]

theorem planned_idle (plan : List (PointIndex × List Issue)) : planned (idle plan) = [] := by
  rw [planned, List.flatMap_eq_nil_iff]
  intro x hx
  rw [(mem_idle.mp hx).2, List.map_nil]

theorem mem_map_fst_planned {plan : List (PointIndex × List Issue)} {q : PointIndex} :
    q ∈ (planned plan).map Prod.fst ↔ ∃ issues, (q, issues) ∈ plan ∧ issues ≠ [] := by
  rw [List.mem_map]
  constructor
  · rintro ⟨⟨_, i⟩, hx, rfl⟩
    obtain ⟨⟨p, issues⟩, hp, hi⟩ := List.mem_flatMap.mp hx
    obtain ⟨i', hi', heq⟩ := List.mem_map.mp hi
    obtain ⟨rfl, rfl⟩ := Prod.mk.inj heq
    exact ⟨issues, hp, List.ne_nil_of_mem hi'⟩
  · rintro ⟨issues, hp, hne⟩
    obtain ⟨i, hi⟩ := List.exists_mem_of_ne_nil issues hne
    exact ⟨(q, i), List.mem_flatMap.mpr ⟨(q, issues), hp, List.mem_map_of_mem hi⟩, rfl⟩

/-! ### Completed facts -/

section Completed

variable {f : Facts} {table : PointTable} {body : Body} {owners : Owners} {items : List Issued}

/-- What is planned for a point does not depend on the loans. -/
theorem IsIssued.withIssued {x : PointIndex × List Issue}
    (h : IsIssued f table body owners x) : IsIssued (f.withIssued items) table body owners x := by
  obtain ⟨p, issues⟩ := x
  obtain ⟨place, hplace, hin, hat⟩ := h
  refine ⟨place, hplace, hin, ?_⟩
  cases hat with
  | call hc hp => exact .call hc ⟨hp.ascending, hp.perm⟩
  | assignment ha hg => exact .assignment ha hg
  | other hc ha => exact .other hc ha

theorem isIssued_idle {plan : List (PointIndex × List Issue)}
    (hplan : ∀ x ∈ plan, IsIssued f table body owners x) :
    ∀ x ∈ idle plan, IsIssued (f.withIssued items) table body owners x := by
  intro x hx
  exact (hplan x (mem_idle.mp hx).1).withIssued

/-- A point stays eligible as long as no loan is issued there. -/
theorem isEligible_withIssued {q : PointIndex} :
    IsEligible (f.withIssued items) q ↔ IsEligible f q ∧ q ∉ items.map Issued.point := by
  rw [List.mem_map]
  constructor
  · rintro ⟨hpairs, hloans⟩
    refine ⟨⟨hpairs, fun r l h => ?_⟩, ?_⟩
    · exact hloans r l (Facts.mem_withIssued.mpr (.inr h))
    · rintro ⟨x, hx, rfl⟩
      exact hloans _ _ (Facts.mem_withIssued.mpr (.inl ⟨x, hx, rfl⟩))
  · rintro ⟨⟨hpairs, hloans⟩, hitems⟩
    refine ⟨hpairs, fun r l h => ?_⟩
    rcases Facts.mem_withIssued.mp h with ⟨x, hx, htuple⟩ | h
    · exact hitems ⟨x, hx, congrArg (fun t => t.2.2) htuple⟩
    · exact hloans r l h

/-- After a pass over the first eligible points, those of them are left that are idle, and all
others. -/
theorem eligiblePoints_withIssued {plan : List (PointIndex × List Issue)} {left : List PointIndex}
    (hpoints : eligiblePoints f = plan.map Prod.fst ++ left)
    (hplan : ∀ x ∈ plan, IsIssued f table body owners x) (first : Loan) :
    eligiblePoints (f.withIssued (numbered first (planned plan))) =
      (idle plan).map Prod.fst ++ left := by
  have hasc := ascending_eligiblePoints f
  rw [hpoints] at hasc
  have hsub : ((idle plan).map Prod.fst ++ left).Sublist (plan.map Prod.fst ++ left) :=
    (List.filter_sublist.map _).append (List.Sublist.refl left)
  -- Both sides are ascending, so it is enough that they have the same members.
  refine (ascending_eligiblePoints _).eq_of_mem_iff (hasc.sublist hsub) fun q => ?_
  rw [mem_eligiblePoints, isEligible_withIssued, ← mem_eligiblePoints, hpoints,
    map_point_numbered, mem_map_fst_planned, List.mem_append, List.mem_append]
  constructor
  · rintro ⟨hq | hq, hnone⟩
    · obtain ⟨⟨q, issues⟩, hx, rfl⟩ := List.mem_map.mp hq
      have hnil : issues = [] := by
        by_contra hne
        exact hnone ⟨issues, hx, hne⟩
      exact .inl (List.mem_map_of_mem (mem_idle.mpr ⟨hx, hnil⟩))
    · exact .inr hq
  · rintro (hq | hq)
    · obtain ⟨⟨q, issues⟩, hx, rfl⟩ := List.mem_map.mp hq
      obtain ⟨hx, hnil⟩ := mem_idle.mp hx
      refine ⟨.inl (List.mem_map_of_mem hx), ?_⟩
      rintro ⟨issues', hx', hne⟩
      exact hne ((hplan _ hx').unique (hplan _ hx) ▸ hnil)
    · refine ⟨.inr hq, ?_⟩
      rintro ⟨issues, hx, -⟩
      have hlt := (List.pairwise_append.mp hasc).2.2 q (List.mem_map_of_mem hx) q hq
      exact absurd hlt (Int.lt_irrefl q)

end Completed

theorem eq_of_adds_nil {f : Facts} {results : List (Loan × Local)} {s : Pass}
    (h : (startPass f results).Adds [] s) :
    s.facts = f ∧ s.issued = { callResults := results } :=
  ⟨h.facts, h.issued.trans (withIssued_nil _)⟩

/-! ### The second pass -/

/-- **Completion is idempotent.**  A second pass over the facts that a first one has left adds
nothing and records nothing.  It succeeds if the first one did; if the first one was stopped by
a diagnostic, with some points completed already, it is stopped by the same one. -/
theorem run_again {f f' : Facts} {table : PointTable} {body : Body} {owners : Owners}
    {results : List (Loan × Local)} (hf' : (run f table body owners results).1.facts = f')
    (results' : List (Loan × Local)) :
    ((run f table body owners results).2 = none →
      (run f' table body owners results').2 = none ∧
        (run f' table body owners results').1.facts = f' ∧
        (run f' table body owners results').1.issued = { callResults := results' }) ∧
    ∀ d, (run f table body owners results).2 = some (.diagnostic d) →
      (run f' table body owners results').2 = some (.diagnostic d) ∧
        (run f' table body owners results').1.facts = f' ∧
        (run f' table body owners results').1.issued = { callResults := results' } := by
  have hends := run_ends f table body owners results
  -- What is planned for the idle points needs no numbers.
  have hfits : ∀ (plan : List (PointIndex × List Issue)),
      ∀ x ∈ numbered (firstLoan f') (planned (idle plan)), Decimal.fits x.loan = true := by
    intro plan x hx
    rw [planned_idle] at hx
    exact absurd hx List.not_mem_nil
  constructor
  · intro h
    rw [h] at hends
    cases hends with
    | @done plan hpoints hplan hadds =>
      have hf : f' = f.withIssued (numbered (firstLoan f) (planned plan)) :=
        hf'.symm.trans hadds.facts
      subst hf
      rw [← List.append_nil (plan.map Prod.fst)] at hpoints
      have hleft := eligiblePoints_withIssued hpoints.symm hplan (firstLoan f)
      rw [List.append_nil] at hleft
      obtain ⟨hnone, hadds'⟩ := run_of_fits hleft (isIssued_idle hplan) (hfits plan) results'
      rw [planned_idle] at hadds'
      exact ⟨hnone, eq_of_adds_nil hadds'⟩
  · intro d h
    rw [h] at hends
    cases hends with
    | @outside plan p rest _ hpoints hplan hadds hd =>
      have hf : f' = f.withIssued (numbered (firstLoan f) (planned plan)) :=
        hf'.symm.trans hadds.facts
      subst hf
      have hleft := eligiblePoints_withIssued hpoints hplan (firstLoan f)
      obtain ⟨hstop, hadds'⟩ :=
        run_of_outside hleft (isIssued_idle hplan) hd (hfits plan) results'
      rw [planned_idle] at hadds'
      exact ⟨hstop, eq_of_adds_nil hadds'⟩

/-- Points of which the last one lies in no block of the body. -/
def strayPoints : PointTable :=
  (PointTable.ofPoints [⟨⟨0, 0⟩, .mid⟩, ⟨⟨0, 1⟩, .mid⟩, ⟨⟨5, 0⟩, .mid⟩]).freeze

theorem run_strayPoints :
    (run moveFacts strayPoints moveBody moveOwners).2 =
      some (.diagnostic (outsideDiagnostic ⟨5, 0⟩)) := by
  rw [run, eligible_moveFacts]
  rfl

theorem moveFacts_again :
    ((run moveFacts movePoints moveBody moveOwners).2 = none ∧
      (run (run moveFacts movePoints moveBody moveOwners).1.facts movePoints moveBody
        moveOwners).2 = none ∧
      (run (run moveFacts movePoints moveBody moveOwners).1.facts movePoints moveBody
        moveOwners).1.issued = {}) ∧
    (run moveFacts strayPoints moveBody moveOwners).2 =
      some (.diagnostic (outsideDiagnostic ⟨5, 0⟩)) ∧
    (run (run moveFacts strayPoints moveBody moveOwners).1.facts strayPoints moveBody
      moveOwners).2 = some (.diagnostic (outsideDiagnostic ⟨5, 0⟩)) ∧
    (run (run moveFacts strayPoints moveBody moveOwners).1.facts strayPoints moveBody
      moveOwners).1.facts = (run moveFacts strayPoints moveBody moveOwners).1.facts := by
  obtain ⟨hnone, -, hissued⟩ := (run_again rfl []).1 run_moveFacts
  obtain ⟨hstop, hfacts, -⟩ := (run_again rfl []).2 _ run_strayPoints
  exact ⟨⟨run_moveFacts, hnone, hissued⟩, run_strayPoints, hstop, hfacts⟩

end BorrowGraph.Completion
