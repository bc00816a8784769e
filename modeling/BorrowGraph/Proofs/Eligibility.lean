/-
Where completion issues loans, and from which number on.

A point is eligible when the outlives relation holds there between two inner regions and no loan is
created there.  The queries of the facts are characterised by what they hold:

* `outlivesAt_isPairsAt`: the pairs at a point are its inner pairs in ascending order;
* `greatest?_isGreatest`: of several pairs the greatest is selected;
* `mem_eligiblePoints`, `ascending_eligiblePoints`: exactly the eligible points are visited, in
  ascending order;
* `isFirstLoan_firstLoan`: numbering starts one past the greatest loan that is mentioned anywhere.
-/
import BorrowGraph.Completion
import BorrowGraph.Proofs.Grouping

namespace BorrowGraph

/-! ### Pairs of regions -/

/-- The lexicographic order of pairs. -/
def PairLe (a b : Int × Int) : Prop :=
  a.1 < b.1 ∨ a.1 = b.1 ∧ a.2 ≤ b.2

theorem pairLe_iff {a b : Int × Int} : Facts.pairLe a b = true ↔ PairLe a b := by
  simp [Facts.pairLe, PairLe]

theorem PairLe.refl (a : Int × Int) : PairLe a a :=
  .inr ⟨rfl, le_refl _⟩

theorem PairLe.trans {a b c : Int × Int} (hab : PairLe a b) (hbc : PairLe b c) :
    PairLe a c := by
  unfold PairLe at *
  omega

theorem PairLe.total (a b : Int × Int) : PairLe a b ∨ PairLe b a := by
  unfold PairLe
  omega

theorem PairLe.antisymm {a b : Int × Int} (hab : PairLe a b) (hba : PairLe b a) :
    a = b := by
  unfold PairLe at *
  exact Prod.ext (by omega) (by omega)

namespace Facts

/-- The pairs of inner regions between which the outlives relation holds at a point. -/
def innerPairs (f : Facts) (p : PointIndex) : List (Region × Region) :=
  f.outlives.filterMap fun (r₁, r₂, q) =>
    if q = p ∧ r₁ ∉ f.universalRegion ∧ r₂ ∉ f.universalRegion then some (r₁, r₂) else none

/-- The inner pairs of a point in ascending order. -/
structure IsPairsAt (f : Facts) (p : PointIndex) (pairs : List (Region × Region)) : Prop where
  ascending : pairs.Pairwise PairLe
  perm : pairs.Perm (f.innerPairs p)

theorem IsPairsAt.unique {f : Facts} {p : PointIndex} {pairs pairs' : List (Region × Region)}
    (h : f.IsPairsAt p pairs) (h' : f.IsPairsAt p pairs') : pairs = pairs' :=
  (h.perm.trans h'.perm.symm).eq_of_pairwise (fun _ _ _ _ hab hba => hab.antisymm hba)
    h.ascending h'.ascending

theorem isInner_iff {f : Facts} {r₁ r₂ : Region} :
    f.isInner r₁ r₂ = true ↔ r₁ ∉ f.universalRegion ∧ r₂ ∉ f.universalRegion := by
  simp [isInner]

theorem mem_innerPairs {f : Facts} {p : PointIndex} {r₁ r₂ : Region} :
    (r₁, r₂) ∈ f.innerPairs p ↔
      (r₁, r₂, p) ∈ f.outlives ∧ r₁ ∉ f.universalRegion ∧ r₂ ∉ f.universalRegion := by
  simp only [innerPairs, List.mem_filterMap, Prod.exists]
  constructor
  · rintro ⟨s₁, s₂, q, hs, h⟩
    split at h
    · obtain ⟨rfl, h₁, h₂⟩ := ‹_ ∧ _ ∧ _›
      obtain ⟨rfl, rfl⟩ := Prod.mk.inj (Option.some_inj.mp h)
      exact ⟨hs, h₁, h₂⟩
    · simp at h
  · rintro ⟨h, h₁, h₂⟩
    exact ⟨r₁, r₂, p, h, by simp [h₁, h₂]⟩

theorem outlivesAt_isPairsAt (f : Facts) (p : PointIndex) : f.IsPairsAt p (f.outlivesAt p) where
  ascending := by
    have hsorted : (f.outlivesAt p).Pairwise fun a b => pairLe a b = true := by
      refine List.pairwise_mergeSort ?_ ?_ _
      · intro a b c hab hbc
        exact pairLe_iff.mpr ((pairLe_iff.mp hab).trans (pairLe_iff.mp hbc))
      · intro a b
        simpa only [Bool.or_eq_true, pairLe_iff] using PairLe.total a b
    exact hsorted.imp pairLe_iff.mp
  perm := by
    refine (List.mergeSort_perm _ _).trans (List.Perm.of_eq ?_)
    rw [innerPairs]
    congr 1
    funext ⟨r₁, r₂, q⟩
    simp only [isInner_iff]

theorem mem_outlivesAt {f : Facts} {p : PointIndex} {a : Region × Region} :
    a ∈ f.outlivesAt p ↔ a ∈ f.innerPairs p :=
  (outlivesAt_isPairsAt f p).perm.mem_iff

theorem mem_outlivesPoints {f : Facts} {p : PointIndex} :
    p ∈ f.outlivesPoints ↔ f.innerPairs p ≠ [] := by
  have hsort : p ∈ f.outlivesPoints ↔ p ∈ f.outlives.filterMap fun (r₁, r₂, q) =>
      if f.isInner r₁ r₂ then some q else none := Liveness.mem_sortInts_eraseDups
  rw [hsort, List.mem_filterMap]
  constructor
  · rintro ⟨⟨r₁, r₂, q⟩, hq, h⟩
    simp only [Option.ite_none_right_eq_some, isInner_iff, Option.some_inj] at h
    obtain ⟨hinner, rfl⟩ := h
    exact List.ne_nil_of_mem (mem_innerPairs.mpr ⟨hq, hinner⟩)
  · intro h
    obtain ⟨⟨r₁, r₂⟩, hr⟩ := List.exists_mem_of_ne_nil _ h
    obtain ⟨hq, hinner⟩ := mem_innerPairs.mp hr
    exact ⟨(r₁, r₂, p), hq, by simp [isInner_iff.mpr hinner]⟩

theorem mem_loanPoints {f : Facts} {p : PointIndex} :
    p ∈ f.loanPoints ↔ ∃ r l, (r, l, p) ∈ f.borrowRegion := by
  simp [loanPoints, List.mem_eraseDups]

/-- Some relation mentions a loan. -/
def Mentions (f : Facts) (l : Loan) : Prop :=
  (∃ r p, (r, l, p) ∈ f.borrowRegion) ∨ (∃ p, (l, p) ∈ f.killed) ∨ ∃ p, (p, l) ∈ f.invalidates

theorem mem_loans {f : Facts} {l : Loan} : l ∈ f.loans ↔ f.Mentions l := by
  simp [loans, Mentions]

end Facts

namespace Completion

/-! ### The greatest pair -/

/-- A pair is the greatest of several. -/
structure IsGreatest (pairs : List (Region × Region)) (a : Region × Region) : Prop where
  mem : a ∈ pairs
  le : ∀ b ∈ pairs, PairLe b a

theorem IsGreatest.unique {pairs : List (Region × Region)} {a b : Region × Region}
    (ha : IsGreatest pairs a) (hb : IsGreatest pairs b) : a = b :=
  (hb.le a ha.mem).antisymm (ha.le b hb.mem)

/-- The search for the greatest pair, from one that has been found. -/
theorem greatest?_from (pairs : List (Region × Region)) (b : Region × Region) :
    ∃ a, pairs.foldl (fun best pair =>
        match best with
        | none => some pair
        | some b => if Facts.pairLe b pair then some pair else some b) (some b) = some a ∧
      IsGreatest (b :: pairs) a := by
  induction pairs generalizing b with
  | nil => exact ⟨b, rfl, by simp, by simp [PairLe.refl]⟩
  | cons c pairs ih =>
    rw [List.foldl_cons]
    by_cases hbc : Facts.pairLe b c = true
    · obtain ⟨a, ha, hmem, hle⟩ := ih c
      refine ⟨a, by simpa only [hbc, if_true] using ha, List.mem_cons_of_mem _ hmem, ?_⟩
      intro d hd
      rcases List.mem_cons.mp hd with rfl | hd
      · exact (pairLe_iff.mp hbc).trans (hle c List.mem_cons_self)
      · exact hle d hd
    · obtain ⟨a, ha, hmem, hle⟩ := ih b
      have hcb : PairLe c b := (PairLe.total c b).resolve_right fun h => hbc (pairLe_iff.mpr h)
      refine ⟨a, by simpa only [if_neg hbc] using ha, ?_, ?_⟩
      · rcases List.mem_cons.mp hmem with rfl | hmem
        · exact List.mem_cons_self
        · exact List.mem_cons_of_mem _ (List.mem_cons_of_mem _ hmem)
      · intro d hd
        rcases List.mem_cons.mp hd with rfl | hd
        · exact hle _ List.mem_cons_self
        · rcases List.mem_cons.mp hd with rfl | hd
          · exact hcb.trans (hle b List.mem_cons_self)
          · exact hle d (List.mem_cons_of_mem _ hd)

theorem greatest?_isGreatest {pairs : List (Region × Region)} (h : pairs ≠ []) :
    ∃ a, greatest? pairs = some a ∧ IsGreatest pairs a := by
  rcases pairs with _ | ⟨b, pairs⟩
  · exact absurd rfl h
  · exact greatest?_from pairs b

/-! ### Eligible points -/

/-- The outlives relation holds at a point between inner regions, and no loan is created there. -/
def IsEligible (f : Facts) (p : PointIndex) : Prop :=
  (∃ r₁ r₂, (r₁, r₂, p) ∈ f.outlives ∧ r₁ ∉ f.universalRegion ∧ r₂ ∉ f.universalRegion) ∧
    ∀ r l, (r, l, p) ∉ f.borrowRegion

theorem IsEligible.innerPairs_ne_nil {f : Facts} {p : PointIndex} (h : IsEligible f p) :
    f.innerPairs p ≠ [] := by
  obtain ⟨⟨r₁, r₂, hr⟩, -⟩ := h
  exact List.ne_nil_of_mem (Facts.mem_innerPairs.mpr hr)

/-- The points that are visited. -/
def eligiblePoints (f : Facts) : List PointIndex :=
  f.outlivesPoints.filter fun p => !f.loanPoints.contains p

theorem eligible_eq (f : Facts) :
    eligible f = (eligiblePoints f).map fun p => (p, f.outlivesAt p) := rfl

theorem mem_eligiblePoints {f : Facts} {p : PointIndex} :
    p ∈ eligiblePoints f ↔ IsEligible f p := by
  rw [eligiblePoints, List.mem_filter, Facts.mem_outlivesPoints, Bool.not_eq_true',
    ← Bool.not_eq_true, List.contains_iff_mem, Facts.mem_loanPoints]
  constructor
  · rintro ⟨hpairs, hloans⟩
    obtain ⟨⟨r₁, r₂⟩, hr⟩ := List.exists_mem_of_ne_nil _ hpairs
    exact ⟨⟨r₁, r₂, Facts.mem_innerPairs.mp hr⟩, fun r l h => hloans ⟨r, l, h⟩⟩
  · intro h
    exact ⟨h.innerPairs_ne_nil, fun ⟨r, l, hr⟩ => h.2 r l hr⟩

theorem ascending_eligiblePoints (f : Facts) : (eligiblePoints f).Pairwise (· < ·) :=
  (Liveness.ascending_sortInts_eraseDups _).filter _

/-! ### The first loan -/

/-- A number is one past the greatest loan that is mentioned, or one if no loan is. -/
def IsFirstLoan (f : Facts) (n : Loan) : Prop :=
  (∃ m, f.Mentions m ∧ (∀ l, f.Mentions l → l ≤ m) ∧ n = m + 1) ∨
    (∀ l, ¬ f.Mentions l) ∧ n = 1

theorem isFirstLoan_firstLoan (f : Facts) : IsFirstLoan f (firstLoan f) := by
  rw [firstLoan, Facts.maxLoan?]
  rcases hmax : f.loans.max? with _ | m
  · right
    rw [List.max?_eq_none_iff] at hmax
    refine ⟨fun l hl => ?_, rfl⟩
    have hmem := Facts.mem_loans.mpr hl
    rw [hmax] at hmem
    exact absurd hmem List.not_mem_nil
  · left
    obtain ⟨hmem, hle⟩ := List.max?_eq_some_iff.mp hmax
    exact ⟨m, Facts.mem_loans.mp hmem, fun l hl => hle l (Facts.mem_loans.mpr hl), rfl⟩

theorem IsFirstLoan.lt {f : Facts} {n : Loan} (h : IsFirstLoan f n) {l : Loan}
    (hl : f.Mentions l) : l < n := by
  rcases h with ⟨m, -, hle, rfl⟩ | ⟨hnone, -⟩
  · exact Int.lt_add_one_of_le (hle l hl)
  · exact absurd hl (hnone l)

end Completion
end BorrowGraph
