/-
Completion is conservative for the solver.

Loans do not interact: how a region comes to require a loan depends on the creation and the
killing of this loan alone (`Requires.of_loan`).  So facts can be extended by loans that they
do not mention (`Facts.Extends`) without an effect on what is derived for the others:

* `without_addedLoans`, `not_mem_errorsAt_extended`: the answers before and after differ by the
  entries of the added loans alone, and no added loan is an error;
* `run_extends`: completion extends facts in this way, since its numbers are taken from above
  all loans that are created, killed or invalidated anywhere;
* `run_conservative`: both together.
-/
import BorrowGraph.Proofs.CompletionPlan
import BorrowGraph.Proofs.LeastModel

namespace BorrowGraph

/-! ### Derivations of one loan -/

/-- Whatever flows in the first facts, through outlives relations and along edges, flows in the
second ones. -/
structure Facts.FlowsIn (f g : Facts) : Prop where
  outlives : f.outlives ⊆ g.outlives
  cfgEdge : f.cfgEdge ⊆ g.cfgEdge
  regionLiveAt : f.regionLiveAt ⊆ g.regionLiveAt

theorem Subset.mono {f g : Facts} (hflow : f.FlowsIn g) {r₁ r₂ : Region} {p : PointIndex}
    (h : Subset f r₁ r₂ p) : Subset g r₁ r₂ p := by
  induction h with
  | base h => exact .base (hflow.outlives h)
  | trans _ _ ih₁ ih₂ => exact .trans ih₁ ih₂
  | flow _ he h₁ h₂ ih =>
    exact .flow ih (hflow.cfgEdge he) (hflow.regionLiveAt h₁) (hflow.regionLiveAt h₂)

/-- What is derived for a loan rests on the tuples of this loan alone. -/
theorem Requires.of_loan {f g : Facts} (hflow : f.FlowsIn g) {l : Loan}
    (hcreated : ∀ r p, (r, l, p) ∈ f.borrowRegion → (r, l, p) ∈ g.borrowRegion)
    (hkilled : ∀ p, (l, p) ∈ g.killed → (l, p) ∈ f.killed) {r : Region} {p : PointIndex}
    (h : Requires f r l p) : Requires g r l p := by
  induction h with
  | base h => exact .base (hcreated _ _ h)
  | widen _ hs ih => exact .widen (ih hcreated hkilled) (hs.mono hflow)
  | flow _ hk he hr ih =>
    have hk' := fun hk' => hk (hkilled _ hk')
    exact .flow (ih hcreated hkilled) hk' (hflow.cfgEdge he) (hflow.regionLiveAt hr)

/-- A loan that is required is created somewhere. -/
theorem Requires.exists_created {f : Facts} {r : Region} {l : Loan} {p : PointIndex}
    (h : Requires f r l p) : ∃ r₀ p₀, (r₀, l, p₀) ∈ f.borrowRegion := by
  induction h with
  | base h => exact ⟨_, _, h⟩
  | widen _ _ ih => exact ih
  | flow _ _ _ _ ih => exact ih

/-! ### Facts with further loans -/

namespace Facts

/-- The loans of the tuples that are in the second facts only. -/
def addedLoans (f f' : Facts) : List Loan :=
  (f'.borrowRegion.filter fun t => !f.borrowRegion.contains t).map fun t => t.2.1

theorem mem_addedLoans {f f' : Facts} {l : Loan} :
    l ∈ f.addedLoans f' ↔ ∃ r p, (r, l, p) ∈ f'.borrowRegion ∧ (r, l, p) ∉ f.borrowRegion := by
  simp [addedLoans]

/-- The second facts hold what the first ones hold, and beyond that only tuples that create
loans which the first ones do not mention. -/
structure Extends (f f' : Facts) : Prop where
  outlives : f'.outlives = f.outlives
  cfgEdge : f'.cfgEdge = f.cfgEdge
  regionLiveAt : f'.regionLiveAt = f.regionLiveAt
  killed : f'.killed = f.killed
  invalidates : f'.invalidates = f.invalidates
  kept : f.borrowRegion ⊆ f'.borrowRegion
  unmentioned : ∀ l ∈ f.addedLoans f', ¬ f.Mentions l

namespace Extends

variable {f f' : Facts} (h : f.Extends f')
include h

theorem flowsIn : f.FlowsIn f' where
  outlives := by rw [h.outlives]; exact List.Subset.refl _
  cfgEdge := by rw [h.cfgEdge]; exact List.Subset.refl _
  regionLiveAt := by rw [h.regionLiveAt]; exact List.Subset.refl _

theorem flowsBack : f'.FlowsIn f where
  outlives := by rw [h.outlives]; exact List.Subset.refl _
  cfgEdge := by rw [h.cfgEdge]; exact List.Subset.refl _
  regionLiveAt := by rw [h.regionLiveAt]; exact List.Subset.refl _

/-- What is required before is what is required afterwards, added loans aside. -/
theorem requires_iff {r : Region} {l : Loan} {p : PointIndex} :
    Requires f r l p ↔ Requires f' r l p ∧ l ∉ f.addedLoans f' := by
  constructor
  · intro hr
    refine ⟨?_, fun hl => h.unmentioned l hl (.inl hr.exists_created)⟩
    refine hr.of_loan h.flowsIn (fun r p hr => h.kept hr) fun p hk => ?_
    rwa [h.killed] at hk
  · rintro ⟨hr, hl⟩
    have hold : ∀ r p, (r, l, p) ∈ f'.borrowRegion → (r, l, p) ∈ f.borrowRegion := by
      intro r p hr
      by_contra hnew
      exact hl (mem_addedLoans.mpr ⟨r, p, hr, hnew⟩)
    refine hr.of_loan h.flowsBack hold fun p hk => ?_
    rwa [h.killed]

theorem not_mem_invalidates {l : Loan} (hl : l ∈ f.addedLoans f') (p : PointIndex) :
    (p, l) ∉ f'.invalidates := by
  rw [h.invalidates]
  exact fun hp => h.unmentioned l hl (.inr (.inr ⟨p, hp⟩))

end Extends
end Facts

/-! ### Answers without some loans -/

namespace Liveness

/-- An answer without the entries of the given loans. -/
def Output.without (o : Output) (ls : List Loan) : Output :=
  { o with
    borrowLive := mapEntries (fun s => s.filter fun l => !ls.contains l) o.borrowLive
    restricts :=
      mapEntries (mapEntries fun s => s.filter fun l => !ls.contains l) o.restricts }

namespace Output.IsOrdered

variable {o : Output} (h : o.IsOrdered) (ls : List Loan)
include h

theorem mem_liveAt_without {p : PointIndex} {l : Loan} :
    l ∈ (o.without ls).liveAt p ↔ l ∈ o.liveAt p ∧ l ∉ ls := by
  rw [liveAt_eq_entry, liveAt_eq_entry, Output.without,
    entry_mapEntries List.filter_nil h.borrowLive.ascending, List.mem_filter]
  simp

theorem mem_requiredAt_without {p : PointIndex} {r : Region} {l : Loan} :
    l ∈ (o.without ls).requiredAt p r ↔ l ∈ o.requiredAt p r ∧ l ∉ ls := by
  rw [requiredAt, requiredAt, Output.without, entry_mapEntries rfl h.restricts.ascending,
    entry_mapEntries List.filter_nil (h.restricts.maps p).ascending, List.mem_filter]
  simp

theorem without : (o.without ls).IsOrdered where
  borrowLive :=
    { toIsMap := isMap_mapEntries _ h.borrowLive.ascending
      sets := by
        intro p
        rw [Output.without, entry_mapEntries List.filter_nil h.borrowLive.ascending]
        exact (h.borrowLive.sets p).filter _ }
  subset := h.subset
  restricts :=
    { toIsMap := isMap_mapEntries _ h.restricts.ascending
      maps := by
        intro p
        rw [Output.without, entry_mapEntries rfl h.restricts.ascending]
        have hinner := h.restricts.maps p
        refine { toIsMap := isMap_mapEntries _ hinner.ascending, sets := ?_ }
        intro r
        rw [entry_mapEntries List.filter_nil hinner.ascending]
        exact (hinner.sets r).filter _ }
  errors := h.errors

end Output.IsOrdered

/-! ### Answers before and after -/

section Extended

variable {f f' : Facts} (h : f.Extends f') {bound bound' : Int} {before after : Output}
  (hbefore : (solve f bound).result = .ok before) (hafter : (solve f' bound').result = .ok after)
include h hbefore hafter

theorem mem_requiredAt_extended {p : PointIndex} {r : Region} {l : Loan} :
    l ∈ before.requiredAt p r ↔ l ∈ after.requiredAt p r ∧ l ∉ f.addedLoans f' := by
  rw [mem_requiredAt_iff hbefore, mem_requiredAt_iff hafter]
  exact h.requires_iff

theorem mem_liveAt_extended {p : PointIndex} {l : Loan} :
    l ∈ before.liveAt p ↔ l ∈ after.liveAt p ∧ l ∉ f.addedLoans f' := by
  rw [mem_liveAt_iff hbefore, mem_liveAt_iff hafter, h.regionLiveAt, ← exists_and_right]
  refine exists_congr fun r => ?_
  rw [h.requires_iff, and_right_comm]

omit hbefore in
theorem not_mem_errorsAt_extended {l : Loan} (hl : l ∈ f.addedLoans f') (p : PointIndex) :
    l ∉ after.errorsAt p := by
  rw [mem_errorsAt_iff hafter]
  exact fun herror => h.not_mem_invalidates hl p herror.1

theorem mem_errorsAt_extended {p : PointIndex} {l : Loan} :
    l ∈ before.errorsAt p ↔ l ∈ after.errorsAt p := by
  by_cases hl : l ∈ f.addedLoans f'
  · -- An added loan is not live before, and it is no error afterwards.
    refine iff_of_false ?_ (not_mem_errorsAt_extended h hafter hl p)
    rw [mem_errorsAt_iff hbefore, mem_liveAt_extended h hbefore hafter]
    exact fun herror => herror.2.2 hl
  · rw [mem_errorsAt_iff hbefore, mem_errorsAt_iff hafter, mem_liveAt_extended h hbefore hafter,
      h.invalidates]
    exact and_congr_right fun _ => and_iff_left hl

/-- The answers before and after differ by the entries of the added loans alone. -/
theorem without_addedLoans : after.without (f.addedLoans f') = before := by
  have hordered := isOrdered_of_solve hafter
  refine (hordered.without _).ext (isOrdered_of_solve hbefore) ?_ ?_ ?_ ?_
  · intro p l
    rw [hordered.mem_liveAt_without, mem_liveAt_extended h hbefore hafter]
  · intro p r₁ r₂
    show r₂ ∈ after.supersetsAt p r₁ ↔ _
    rw [mem_supersetsAt_iff hafter, mem_supersetsAt_iff hbefore]
    exact ⟨Subset.mono h.flowsBack, Subset.mono h.flowsIn⟩
  · intro p r l
    rw [hordered.mem_requiredAt_without, mem_requiredAt_extended h hbefore hafter]
  · intro p l
    exact (mem_errorsAt_extended h hbefore hafter).symm

end Extended

end Liveness

/-! ### Completed facts -/

namespace Completion

open Liveness

theorem extends_withIssued {f : Facts} {items : List Issued}
    (hitems : ∀ x ∈ items, ¬ f.Mentions x.loan) : f.Extends (f.withIssued items) where
  outlives := rfl
  cfgEdge := rfl
  regionLiveAt := rfl
  killed := rfl
  invalidates := rfl
  kept := fun _ ht => Facts.mem_withIssued.mpr (.inr ht)
  unmentioned := by
    intro l hl
    obtain ⟨r, p, hnew, hold⟩ := Facts.mem_addedLoans.mp hl
    rcases Facts.mem_withIssued.mp hnew with ⟨x, hx, htuple⟩ | h
    · obtain rfl : x.loan = l := congrArg (fun t => t.2.1) htuple
      exact hitems x hx
    · exact absurd h hold

/-- Completion only adds loans that no relation mentions. -/
theorem run_extends {f f' : Facts} {table : PointTable} {body : Body} {owners : Owners}
    {results : List (Loan × Local)} (h : (run f table body owners results).2 = none)
    (hf' : (run f table body owners results).1.facts = f') : f.Extends f' := by
  have hends := run_ends f table body owners results
  rw [h] at hends
  cases hends with
  | done _ _ hadds =>
    rw [← hf', hadds.facts]
    exact extends_withIssued fun x hx =>
      not_mentions_of_mem_numbered (isFirstLoan_firstLoan f) hx

/-- **Completion is conservative.**  The answers to facts before and after completion agree but
for the loans that completion has added: containments and errors are the same, any other loan
is required and live at the same points, and without the added loans the answers are equal.  No
added loan is an error. -/
theorem run_conservative {f f' : Facts} {table : PointTable} {body : Body} {owners : Owners}
    {results : List (Loan × Local)} {bound bound' : Int} {before after : Output}
    (hrun : (run f table body owners results).2 = none)
    (hf' : (run f table body owners results).1.facts = f')
    (hbefore : (solve f bound).result = .ok before)
    (hafter : (solve f' bound').result = .ok after) :
    after.subset = before.subset ∧ after.errors = before.errors ∧
      (∀ l, l ∉ f.addedLoans f' → ∀ p,
        (∀ r, l ∈ after.requiredAt p r ↔ l ∈ before.requiredAt p r) ∧
          (l ∈ after.liveAt p ↔ l ∈ before.liveAt p)) ∧
      after.without (f.addedLoans f') = before ∧
      ∀ l ∈ f.addedLoans f', ∀ p, l ∉ after.errorsAt p := by
  have hextends := run_extends hrun hf'
  have hwithout := without_addedLoans hextends hbefore hafter
  have hsubset : (after.without (f.addedLoans f')).subset = before.subset := by rw [hwithout]
  have herrors : (after.without (f.addedLoans f')).errors = before.errors := by rw [hwithout]
  refine ⟨hsubset, herrors, ?_, hwithout, ?_⟩
  · intro l hl p
    constructor
    · intro r
      rw [mem_requiredAt_extended hextends hbefore hafter]
      exact (and_iff_left hl).symm
    · rw [mem_liveAt_extended hextends hbefore hafter]
      exact (and_iff_left hl).symm
  · intro l hl p
    exact not_mem_errorsAt_extended hextends hafter hl p

/-- A reference is moved into a region that is live at the next point, where a loan of another
live region is an error. -/
def flowFacts : Facts :=
  { outlives := [(1, 2, 0)]
    borrowRegion := [(3, 4, 1)]
    cfgEdge := [(0, 1)]
    regionLiveAt := [(2, 1), (3, 1)]
    killed := [(5, 0)]
    invalidates := [(1, 4)] }

/-- The same facts with a loan for the move. -/
def completedFlowFacts : Facts :=
  { flowFacts with borrowRegion := [(2, 6, 0), (3, 4, 1)] }

def flowAnswer : Output :=
  { borrowLive := [(1, [4])]
    subset := [(0, [(1, [2])])]
    restricts := [(1, [(3, [4])])]
    errors := [(1, [4])] }

def completedFlowAnswer : Output :=
  { borrowLive := [(1, [4, 6])]
    subset := [(0, [(1, [2])])]
    restricts := [(0, [(2, [6])]), (1, [(2, [6]), (3, [4])])]
    errors := [(1, [4])] }

theorem eligible_flowFacts : eligible flowFacts = [(0, [(1, 2)])] := by
  cbv

theorem flowFacts_conservative :
    ((run flowFacts movePoints moveBody moveOwners).2 = none ∧
      (run flowFacts movePoints moveBody moveOwners).1.facts = completedFlowFacts ∧
      (solve flowFacts 8).result = .ok flowAnswer ∧
      (solve completedFlowFacts 8).result = .ok completedFlowAnswer) ∧
    flowFacts.addedLoans completedFlowFacts = [6] ∧
    completedFlowAnswer.without [6] = flowAnswer ∧
    ∀ p, 6 ∉ completedFlowAnswer.errorsAt p := by
  have hrun : (run flowFacts movePoints moveBody moveOwners).2 = none := by
    rw [run, eligible_flowFacts]
    decide
  have hfacts : (run flowFacts movePoints moveBody moveOwners).1.facts = completedFlowFacts := by
    rw [run, eligible_flowFacts]
    rfl
  have hbefore : (solve flowFacts 8).result = .ok flowAnswer := by cbv
  have hafter : (solve completedFlowFacts 8).result = .ok completedFlowAnswer := by cbv
  have hadded : flowFacts.addedLoans completedFlowFacts = [6] := by decide
  obtain ⟨-, -, -, hwithout, herrors⟩ := run_conservative hrun hfacts hbefore hafter
  rw [hadded] at hwithout herrors
  exact ⟨⟨hrun, hfacts, hbefore, hafter⟩, hadded, hwithout, herrors 6 (List.mem_singleton_self 6)⟩

end Completion
end BorrowGraph
