/-
How many rounds a run needs.

Both relations of a run are computed by saturation, one after the other, under one bound on the
rounds.  Each of them needs as many rounds as naive evaluation of its rules needs to become
stable, and there are only finitely many tuples to be found (`finite_subset`,
`finite_requires`).  So for any facts there is one number of rounds that decides:

* `runsInStep_of_stableAt`: both relations are computed if as many rounds are allowed as both
  need together;
* `solve_threshold`: with so many rounds a run always gives the same answer, with fewer it
  fails, and there are not more of them than tuples in both relations.

A run that fails names its bound.  A bound with too many digits cannot be named
(`solve_longBound`).
-/
import BorrowGraph.Proofs.LeastModel
import BorrowGraph.Proofs.Stages

namespace BorrowGraph

/-! ### Finitely many tuples -/

/-- The regions between which the outlives relation holds somewhere. -/
def Facts.outlivesRegions (f : Facts) : List Region :=
  f.outlives.map (fun t => t.1) ++ f.outlives.map fun t => t.2.1

/-- The points to which control passes. -/
def Facts.targets (f : Facts) : List PointIndex :=
  f.cfgEdge.map Prod.snd

theorem Facts.mem_targets {f : Facts} {p q : PointIndex} (h : (p, q) ∈ f.cfgEdge) : q ∈ f.targets :=
  List.mem_map_of_mem h

/-- Containment holds between regions of the outlives relation, at its points or behind edges. -/
theorem Subset.bounded {f : Facts} {r₁ r₂ : Region} {p : PointIndex} (h : Subset f r₁ r₂ p) :
    r₁ ∈ f.outlivesRegions ∧ r₂ ∈ f.outlivesRegions ∧
      p ∈ f.outlives.map (fun t => t.2.2) ++ f.targets := by
  induction h with
  | base h =>
    refine ⟨?_, ?_, ?_⟩
    · exact List.mem_append_left _ (List.mem_map_of_mem h)
    · exact List.mem_append_right _ (List.mem_map_of_mem h)
    · exact List.mem_append_left _ (List.mem_map_of_mem h)
  | trans _ _ ih₁ ih₂ => exact ⟨ih₁.1, ih₂.2⟩
  | flow _ he _ _ ih => exact ⟨ih.1, ih.2.1, List.mem_append_right _ (Facts.mem_targets he)⟩

/-- Loans are required as they are created, by regions in which they are created or regions of
the outlives relation, where they are created or behind edges. -/
theorem Requires.bounded {f : Facts} {r : Region} {l : Loan} {p : PointIndex}
    (h : Requires f r l p) :
    r ∈ f.borrowRegion.map (fun t => t.1) ++ f.outlivesRegions ∧
      l ∈ f.borrowRegion.map (fun t => t.2.1) ∧
      p ∈ f.borrowRegion.map (fun t => t.2.2) ++ f.targets := by
  induction h with
  | base h =>
    refine ⟨?_, List.mem_map_of_mem h, ?_⟩
    · exact List.mem_append_left _ (List.mem_map_of_mem h)
    · exact List.mem_append_left _ (List.mem_map_of_mem h)
  | widen _ hs ih => exact ⟨List.mem_append_right _ hs.bounded.2.1, ih.2⟩
  | flow _ _ he _ ih => exact ⟨ih.1, ih.2.1, List.mem_append_right _ (Facts.mem_targets he)⟩

namespace Liveness

/-- The tuples of `Subset`. -/
def subsetTuples (f : Facts) : Set (Region × Region × PointIndex) :=
  {t | Subset f t.1 t.2.1 t.2.2}

/-- The tuples of `Requires`. -/
def requiresTuples (f : Facts) : Set (Region × Loan × PointIndex) :=
  {t | Requires f t.1 t.2.1 t.2.2}

theorem finite_subset (f : Facts) : (subsetTuples f).Finite := by
  have hall := (List.finite_toSet f.outlivesRegions).prod
    ((List.finite_toSet f.outlivesRegions).prod
      (List.finite_toSet (f.outlives.map (fun t => t.2.2) ++ f.targets)))
  refine hall.subset fun t ht => ?_
  obtain ⟨h₁, h₂, hp⟩ := Subset.bounded ht
  exact ⟨h₁, h₂, hp⟩

theorem finite_requires (f : Facts) : (requiresTuples f).Finite := by
  have hall := (List.finite_toSet (f.borrowRegion.map (fun t => t.1) ++ f.outlivesRegions)).prod
    ((List.finite_toSet (f.borrowRegion.map (fun t => t.2.1))).prod
      (List.finite_toSet (f.borrowRegion.map (fun t => t.2.2) ++ f.targets)))
  refine hall.subset fun t ht => ?_
  obtain ⟨hr, hl, hp⟩ := Requires.bounded ht
  exact ⟨hr, hl, hp⟩

theorem derivable_eq_subsetTuples (f : Facts) :
    {t | Derivable (SubsetRule f) (· ∈ f.outlives) t} = subsetTuples f :=
  Set.ext fun _ => ⟨subset_of_derivable, derivable_of_subset⟩

theorem derivable_eq_requiresTuples (f : Facts) :
    {t | Derivable (RequiresRule f (Subset f)) (· ∈ f.borrowRegion) t} = requiresTuples f :=
  Set.ext fun _ => ⟨requires_of_derivable, derivable_of_requires⟩

/-! ### The rounds of a run -/

/-- What is known and new of `Subset` after some rounds. -/
def subsetRounds (f : Facts) (k : Nat) :
    List (Region × Region × PointIndex) × List (Region × Region × PointIndex) :=
  (nextRound (joinSubset f))^[k] (f.outlives.eraseDups, f.outlives.eraseDups)

/-- What is known and new of `Requires` after some rounds, with the given tuples of `Subset`. -/
def requiresRounds (f : Facts) (subset : List (Region × Region × PointIndex)) (k : Nat) :
    List (Region × Loan × PointIndex) × List (Region × Loan × PointIndex) :=
  (nextRound fun _ => joinRequires f subset)^[k]
    (f.borrowRegion.eraseDups, f.borrowRegion.eraseDups)

theorem inStep_subsetRounds (f : Facts) (k : Nat) :
    InStep (SubsetRule f) (· ∈ f.outlives) k (subsetRounds f k) :=
  inStep_rounds (joinsBy_joinSubset f) (fun _ hr => nomatch hr) (fun _ => List.mem_eraseDups) k

/-- In the end all tuples of `Subset` are known. -/
theorem mem_subsetRounds {f : Facts} {k : Nat}
    (h : StableAt (SubsetRule f) (· ∈ f.outlives) k) (t : Region × Region × PointIndex) :
    t ∈ (subsetRounds f k).1 ↔ t ∈ subsetTuples f := by
  rw [(inStep_subsetRounds f k).known, ← h.1, stage_eq_of_stable h.1, derivable_eq_subsetTuples]

section Run

variable {f : Facts} {subset : List (Region × Region × PointIndex)}
  (hsubset : ∀ t, t ∈ subset ↔ t ∈ subsetTuples f)
include hsubset

theorem joinsBy_of_subsetTuples :
    JoinsBy (fun _ => joinRequires f subset) (RequiresRule f (Subset f)) := by
  have hcontained : (fun r₁ r₂ p => (r₁, r₂, p) ∈ subset) = Subset f := by
    funext r₁ r₂ p
    exact propext (hsubset (r₁, r₂, p))
  rw [← hcontained]
  exact joinsBy_joinRequires f subset

theorem inStep_requiresRounds (k : Nat) :
    InStep (RequiresRule f (Subset f)) (· ∈ f.borrowRegion) k (requiresRounds f subset k) :=
  inStep_rounds (joinsBy_of_subsetTuples hsubset) (fun _ hr => nomatch hr)
    (fun _ => List.mem_eraseDups) k

end Run

/-- A run computes both relations in step with naive evaluation: `Subset` in `k₁` rounds and
then, with all its tuples, `Requires` in `k₂` rounds.  It ends if so many rounds are allowed in
all. -/
structure RunsInStep (f : Facts) (k₁ k₂ : Nat) : Prop where
  subset : ∀ k, InStep (SubsetRule f) (· ∈ f.outlives) k (subsetRounds f k)
  requires : ∀ k, InStep (RequiresRule f (Subset f)) (· ∈ f.borrowRegion) k
    (requiresRounds f (subsetRounds f k₁).1 k)
  relations : ∀ allowed, relations f allowed =
    if k₁ + k₂ ≤ allowed then
      .ok (⟨(subsetRounds f k₁).1, k₁⟩, ⟨(requiresRounds f (subsetRounds f k₁).1 k₂).1, k₂⟩)
    else .error (allowed + 1)

/-- A run needs the rounds that both relations need together. -/
theorem runsInStep_of_stableAt {f : Facts} {k₁ k₂ : Nat}
    (h₁ : StableAt (SubsetRule f) (· ∈ f.outlives) k₁)
    (h₂ : StableAt (RequiresRule f (Subset f)) (· ∈ f.borrowRegion) k₂) : RunsInStep f k₁ k₂ where
  subset := inStep_subsetRounds f
  requires := inStep_requiresRounds (mem_subsetRounds h₁)
  relations := by
    intro allowed
    have hsubset := saturate_of_stableAt (joinsBy_joinSubset f) (fun _ hr => nomatch hr)
      (fun _ => List.mem_eraseDups) h₁ allowed
    have hrequires := saturate_of_stableAt (joinsBy_of_subsetTuples (mem_subsetRounds h₁))
      (fun _ hr => nomatch hr) (fun _ => List.mem_eraseDups) h₂ (allowed - k₁)
    rw [← subsetRounds] at hsubset
    rw [← requiresRounds] at hrequires
    rw [Liveness.relations, hsubset]
    by_cases hle : k₁ ≤ allowed
    · simp only [if_pos hle, hrequires]
      -- The rounds that are left suffice for the second relation if all rounds suffice for both.
      by_cases hsum : k₁ + k₂ ≤ allowed
      · rw [if_pos hsum, if_pos (by omega)]
      · -- The rounds of the first relation count as well.
        have hcount : k₁ + (allowed - k₁ + 1) = allowed + 1 := by omega
        rw [if_neg hsum, if_neg (by omega)]
        simp only [hcount]
    · rw [if_neg hle, if_neg (by omega)]

/-! ### The threshold -/

/-- A number of rounds decides: with so many a run gives one and the same answer after exactly
this number, with fewer it fails in the first round that is not allowed, and says so if it can
write the bound. -/
structure IsThreshold (f : Facts) (n : Nat) : Prop where
  enough : ∃ o, ∀ bound : Int, (n ≤ bound ∨ n = 0) →
    (solve f bound).result = .ok o ∧ (solve f bound).rounds = n
  tooFew : 0 < n → ∀ bound : Int, bound < n →
    (solve f bound).result =
        .error (if Decimal.fits bound then .roundLimit bound else .tooLargeToWrite) ∧
      ((solve f bound).rounds : Int) = max bound 0 + 1

theorem isThreshold_of_relations {f : Facts} {n : Nat}
    {subset : Saturated (Region × Region × PointIndex)}
    {requires : Saturated (Region × Loan × PointIndex)} (hn : subset.rounds + requires.rounds = n)
    (h : ∀ allowed, relations f allowed =
      if n ≤ allowed then .ok (subset, requires) else .error (allowed + 1)) :
    IsThreshold f n where
  enough := by
    refine ⟨answer f subset.tuples requires.tuples, fun bound hbound => ?_⟩
    have hle : n ≤ bound.toNat := by omega
    rw [solve, h, if_pos hle]
    exact ⟨rfl, hn⟩
  tooFew := by
    intro hpos bound hbound
    have hlt : ¬ n ≤ bound.toNat := by omega
    rw [solve, h, if_neg hlt]
    refine ⟨rfl, ?_⟩
    simp only
    omega

/-- **The bound on the rounds is sharp.**  The rounds run in step with naive evaluation of the
rules, first for `Subset` and then, over all its tuples, for `Requires`.  The number of steps
until both are stable is the number of rounds that a run needs: with fewer it fails, with so
many or more it gives the same answer.  It is at most the number of tuples of both relations,
which is finite. -/
theorem solve_threshold (f : Facts) :
    ∃ k₁ k₂, StableAt (SubsetRule f) (· ∈ f.outlives) k₁ ∧
      StableAt (RequiresRule f (Subset f)) (· ∈ f.borrowRegion) k₂ ∧
      RunsInStep f k₁ k₂ ∧ IsThreshold f (k₁ + k₂) ∧
      stage (SubsetRule f) (· ∈ f.outlives) k₁ = subsetTuples f ∧
      stage (RequiresRule f (Subset f)) (· ∈ f.borrowRegion) k₂ = requiresTuples f ∧
      (subsetTuples f).Finite ∧ (requiresTuples f).Finite ∧
      k₁ + k₂ ≤ (subsetTuples f).ncard + (requiresTuples f).ncard := by
  have hfin₁ := finite_subset f
  have hfin₂ := finite_requires f
  rw [← derivable_eq_subsetTuples] at hfin₁ ⊢
  rw [← derivable_eq_requiresTuples] at hfin₂ ⊢
  obtain ⟨k₁, h₁⟩ := exists_stableAt hfin₁
  obtain ⟨k₂, h₂⟩ := exists_stableAt hfin₂
  have hruns := runsInStep_of_stableAt h₁ h₂
  exact ⟨k₁, k₂, h₁, h₂, hruns, isThreshold_of_relations rfl hruns.relations,
    stage_eq_of_stable h₁.1, stage_eq_of_stable h₂.1, hfin₁, hfin₂,
    Nat.add_le_add (h₁.le_ncard hfin₁) (h₂.le_ncard hfin₂)⟩

/-- Facts with one region in another. -/
def nestedFacts : Facts :=
  { outlives := [(1, 2, 0)] }

/-- One round is needed here, so that a bound of zero is refused by its name.  A smaller one
with 4301 digits is refused, but not by its name. -/
theorem solve_longBound : (solve nestedFacts 1).rounds = 1 ∧ -Decimal.firstLong < 1 ∧
    (solve nestedFacts 0).result = .error (.roundLimit 0) ∧
    (solve nestedFacts (-Decimal.firstLong)).result = .error .tooLargeToWrite := by
  have hneg : -Decimal.firstLong < 0 := Int.neg_neg_of_pos Decimal.firstLong_pos
  have hnone : relations nestedFacts (-Decimal.firstLong).toNat = .error 1 := by
    rw [Int.toNat_of_nonpos hneg.le]
    rfl
  refine ⟨by decide, by omega, by decide, ?_⟩
  rw [solve, hnone]
  simp only [boundFault, Decimal.fits_neg, Decimal.fits_firstLong]
  rfl

end Liveness
end BorrowGraph
