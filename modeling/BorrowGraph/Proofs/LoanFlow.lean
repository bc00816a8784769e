/-
How an answer depends on the facts.

An answer grows with the facts, but for the killing of loans, which takes entries away; and
each loan that is live comes from somewhere:

* `solve_mono`: facts with more tuples, and fewer that kill, have an answer with more entries;
* `Requires.exists_path`, `exists_path_of_live`: a live loan has come along edges from a point
  that creates it, live all the way and killed nowhere on it.

The region that requires a loan may change at each point of such a path, through containments
that have come there by other ways.  This does not lengthen the path: to another point a loan
comes only along an edge, and then the region that requires it is live behind the edge.
-/
import BorrowGraph.Proofs.Conservation
import Mathlib.Data.List.Chain

namespace BorrowGraph

/-! ### More facts -/

/-- The second facts have all tuples of the first ones, except that they may kill fewer loans. -/
structure Facts.Below (f g : Facts) : Prop extends Facts.FlowsIn f g where
  borrowRegion : f.borrowRegion ⊆ g.borrowRegion
  killed : g.killed ⊆ f.killed
  invalidates : f.invalidates ⊆ g.invalidates

theorem Requires.mono {f g : Facts} (h : f.Below g) {r : Region} {l : Loan} {p : PointIndex}
    (hr : Requires f r l p) : Requires g r l p :=
  hr.of_loan h.toFlowsIn (fun _ _ hcreated => h.borrowRegion hcreated) fun _ hk => h.killed hk

namespace Liveness

/-- The second answer has all entries of the first one. -/
structure Output.Below (o o' : Output) : Prop where
  subset : ∀ p r, o.supersetsAt p r ⊆ o'.supersetsAt p r
  restricts : ∀ p r, o.requiredAt p r ⊆ o'.requiredAt p r
  borrowLive : ∀ p, o.liveAt p ⊆ o'.liveAt p
  errors : ∀ p, o.errorsAt p ⊆ o'.errorsAt p

/-- **Answers are monotone.**  More facts never remove an entry, unless they kill loans; the
universal regions do not matter. -/
theorem solve_mono {f g : Facts} {bound bound' : Int} {o o' : Output} (h : f.Below g)
    (ho : (solve f bound).result = .ok o) (ho' : (solve g bound').result = .ok o') :
    o.Below o' := by
  have hlive : ∀ p, o.liveAt p ⊆ o'.liveAt p := by
    intro p l hl
    rw [mem_liveAt_iff ho] at hl
    obtain ⟨r, hr, hregion⟩ := hl
    exact (mem_liveAt_iff ho').mpr ⟨r, hr.mono h, h.regionLiveAt hregion⟩
  refine ⟨?_, ?_, hlive, ?_⟩
  · intro p r₁ r₂ hr
    rw [mem_supersetsAt_iff ho] at hr
    exact (mem_supersetsAt_iff ho').mpr (hr.mono h.toFlowsIn)
  · intro p r l hl
    rw [mem_requiredAt_iff ho] at hl
    exact (mem_requiredAt_iff ho').mpr (hl.mono h)
  · intro p l hl
    rw [mem_errorsAt_iff ho] at hl
    exact (mem_errorsAt_iff ho').mpr ⟨h.invalidates hl.1, hlive p hl.2⟩

/-- A loan that goes round a loop, leaves it in another region and is killed behind it. -/
def loopFacts : Facts :=
  { outlives := [(1, 2, 0), (2, 3, 2)]
    borrowRegion := [(1, 7, 0)]
    cfgEdge := [(0, 1), (1, 2), (2, 1), (2, 3), (3, 4)]
    regionLiveAt := [(2, 1), (2, 2), (3, 1), (3, 3), (3, 4)]
    killed := [(7, 3)]
    invalidates := [(3, 7), (4, 7)] }

def loopAnswer : Output :=
  { borrowLive := [(1, [7]), (2, [7]), (3, [7])]
    subset := [(0, [(1, [2])]), (1, [(2, [3])]), (2, [(2, [3])])]
    restricts :=
      [(0, [(1, [7]), (2, [7])]), (1, [(2, [7]), (3, [7])]), (2, [(2, [7]), (3, [7])]),
        (3, [(3, [7])])]
    errors := [(3, [7])] }

theorem solve_loopFacts : (solve loopFacts 8).result = .ok loopAnswer := by
  cbv

/-- The loop with a second loan and with nothing killed. -/
def widerLoopFacts : Facts :=
  { loopFacts with
    borrowRegion := [(2, 8, 1), (1, 7, 0)]
    universalRegion := [2]
    killed := []
    invalidates := [(2, 8), (3, 7), (4, 7)] }

def widerLoopAnswer : Output :=
  { loopAnswer with
    borrowLive := [(1, [7, 8]), (2, [7, 8]), (3, [7, 8]), (4, [7, 8])]
    restricts :=
      [(0, [(1, [7]), (2, [7])]), (1, [(2, [7, 8]), (3, [7, 8])]), (2, [(2, [7, 8]), (3, [7, 8])]),
        (3, [(3, [7, 8])]), (4, [(3, [7, 8])])]
    errors := [(2, [8]), (3, [7]), (4, [7])] }

theorem loopAnswer_below :
    (loopFacts.Below widerLoopFacts ∧ (solve loopFacts 8).result = .ok loopAnswer ∧
      (solve widerLoopFacts 9).result = .ok widerLoopAnswer) ∧
    loopAnswer.Below widerLoopAnswer := by
  have h : loopFacts.Below widerLoopFacts :=
    { outlives := List.Subset.refl _
      cfgEdge := List.Subset.refl _
      regionLiveAt := List.Subset.refl _
      borrowRegion := by decide
      killed := by decide
      invalidates := by decide }
  have hwider : (solve widerLoopFacts 9).result = .ok widerLoopAnswer := by cbv
  exact ⟨⟨h, solve_loopFacts, hwider⟩, solve_mono h solve_loopFacts hwider⟩

end Liveness

/-! ### Paths of loans -/

/-- A path along edges to a point, from one that creates the loan.  The loan is killed at no
point of the path but possibly the last one. -/
structure Facts.IsLoanPath (f : Facts) (l : Loan) (path : List PointIndex) (p : PointIndex) :
    Prop where
  created : ∃ p₀ r, path.head? = some p₀ ∧ (r, l, p₀) ∈ f.borrowRegion
  edges : path.IsChain fun p q => (p, q) ∈ f.cfgEdge
  unkilled : ∀ q ∈ path.dropLast, (l, q) ∉ f.killed
  last : path.getLast? = some p

/-- A path goes on along an edge behind a point where the loan is not killed. -/
theorem Facts.IsLoanPath.concat {f : Facts} {l : Loan} {path : List PointIndex}
    {p q : PointIndex} (h : f.IsLoanPath l path p) (hk : (l, p) ∉ f.killed)
    (he : (p, q) ∈ f.cfgEdge) : f.IsLoanPath l (path ++ [q]) q where
  created := by
    obtain ⟨p₀, r, hhead, hr⟩ := h.created
    exact ⟨p₀, r, by rw [List.head?_append, hhead, Option.some_or], hr⟩
  edges := by
    refine List.isChain_append.mpr ⟨h.edges, List.isChain_singleton q, ?_⟩
    intro x hx y hy
    rw [h.last, Option.mem_some_iff] at hx
    rw [List.head?_singleton, Option.mem_some_iff] at hy
    rwa [← hx, ← hy]
  unkilled := by
    intro x hx
    rw [List.dropLast_concat, ← List.dropLast_append_getLast? p h.last, List.mem_append,
      List.mem_singleton] at hx
    rcases hx with hx | rfl
    · exact h.unkilled x hx
    · exact hk
  last := List.getLast?_concat

/-- A loan that a region requires at a point has come there on a path, and behind each edge of
the path a live region requires it. -/
theorem Requires.exists_path {f : Facts} {r : Region} {l : Loan} {p : PointIndex}
    (h : Requires f r l p) :
    ∃ path, f.IsLoanPath l path p ∧
      ∀ q ∈ path.tail, ∃ r', Requires f r' l q ∧ (r', q) ∈ f.regionLiveAt := by
  -- Only the rule for edges leads to another point, so only there the path becomes longer.
  induction h with
  | @base r l p hcreated =>
    refine ⟨[p], ⟨⟨p, r, rfl, hcreated⟩, List.isChain_singleton p, ?_, rfl⟩, ?_⟩
    · exact fun q hq => absurd hq List.not_mem_nil
    · exact fun q hq => absurd hq List.not_mem_nil
  | widen _ _ ih => exact ih
  | @flow r l p q hr hk he hlive ih =>
    obtain ⟨path, hpath, htail⟩ := ih
    refine ⟨path ++ [q], hpath.concat hk he, fun x hx => ?_⟩
    have hne : path ≠ [] := by
      rintro rfl
      exact absurd hpath.last (by simp)
    rw [List.tail_append_of_ne_nil hne, List.mem_append, List.mem_singleton] at hx
    rcases hx with hx | rfl
    · exact htail x hx
    · exact ⟨r, .flow hr hk he hlive, hlive⟩

namespace Liveness

/-- **No loan is live out of thin air.**  A loan that is live at a point has come there along
edges from a point that creates it.  On the way it is killed nowhere before that point, and
live everywhere behind the first one. -/
theorem exists_path_of_live {f : Facts} {bound : Int} {o : Output}
    (ho : (solve f bound).result = .ok o) {p : PointIndex} {l : Loan} (hl : l ∈ o.liveAt p) :
    ∃ path, f.IsLoanPath l path p ∧ ∀ q ∈ path.tail, l ∈ o.liveAt q := by
  obtain ⟨r, hr, -⟩ := (mem_liveAt_iff ho).mp hl
  obtain ⟨path, hpath, htail⟩ := hr.exists_path
  exact ⟨path, hpath, fun q hq => (mem_liveAt_iff ho).mpr (htail q hq)⟩

theorem loopAnswer_path :
    ((solve loopFacts 8).result = .ok loopAnswer ∧ 7 ∈ loopAnswer.liveAt 3) ∧
      ∃ path, loopFacts.IsLoanPath 7 path 3 ∧ ∀ q ∈ path.tail, 7 ∈ loopAnswer.liveAt q := by
  have hl : 7 ∈ loopAnswer.liveAt 3 := by decide
  exact ⟨⟨solve_loopFacts, hl⟩, exists_path_of_live solve_loopFacts hl⟩

end Liveness
end BorrowGraph
