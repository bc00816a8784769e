/-
The answer of a run is the least model of the rules.

`Subset` and `Requires` say what follows from facts; `solve` computes it in rounds.  Both
relations are instances of saturation: `SubsetRule` and `RequiresRule` are their rules with the
premises as lists, and the joins of the rounds find what these rules yield
(`joinsBy_joinSubset`, `joinsBy_joinRequires`).

* `mem_subset_iff`, `mem_requires_iff`: the relations that a run computes are the derivable
  ones;
* `solve_least_model`: so each map of the answer holds exactly what the rules say, and no key
  of it is bound to nothing.
-/
import BorrowGraph.Proofs.Grouping
import BorrowGraph.Proofs.Saturation

namespace BorrowGraph.Liveness

/-! ### The rules with their premises -/

/-- The rules of `Subset`. -/
inductive SubsetRule (f : Facts) :
    List (Region × Region × PointIndex) → Region × Region × PointIndex → Prop where
  | trans {r₁ r₂ r₃ p} : SubsetRule f [(r₁, r₂, p), (r₂, r₃, p)] (r₁, r₃, p)
  | flow {r₁ r₂ p q} : (p, q) ∈ f.cfgEdge → (r₁, q) ∈ f.regionLiveAt →
      (r₂, q) ∈ f.regionLiveAt → SubsetRule f [(r₁, r₂, p)] (r₁, r₂, q)

/-- The rules of `Requires`, over a relation between regions. -/
inductive RequiresRule (f : Facts) (contained : Region → Region → PointIndex → Prop) :
    List (Region × Loan × PointIndex) → Region × Loan × PointIndex → Prop where
  | widen {r₁ r₂ l p} : contained r₁ r₂ p → RequiresRule f contained [(r₁, l, p)] (r₂, l, p)
  | flow {r l p q} : (l, p) ∉ f.killed → (p, q) ∈ f.cfgEdge → (r, q) ∈ f.regionLiveAt →
      RequiresRule f contained [(r, l, p)] (r, l, q)

theorem subset_of_derivable {f : Facts} {t : Region × Region × PointIndex}
    (h : Derivable (SubsetRule f) (· ∈ f.outlives) t) : Subset f t.1 t.2.1 t.2.2 := by
  induction h with
  | base hb => exact .base hb
  | step _ hr ih =>
    cases hr with
    | @trans r₁ r₂ r₃ p =>
      have h₁ := ih (r₁, r₂, p) (by simp)
      have h₂ := ih (r₂, r₃, p) (by simp)
      exact .trans h₁ h₂
    | @flow r₁ r₂ p q he h₁ h₂ =>
      have hp := ih (r₁, r₂, p) (by simp)
      exact .flow hp he h₁ h₂

theorem derivable_of_subset {f : Facts} {r₁ r₂ : Region} {p : PointIndex}
    (h : Subset f r₁ r₂ p) : Derivable (SubsetRule f) (· ∈ f.outlives) (r₁, r₂, p) := by
  induction h with
  | base hb => exact .base hb
  | @trans r₁ r₂ r₃ p _ _ ih₁ ih₂ =>
    have hr : SubsetRule f [(r₁, r₂, p), (r₂, r₃, p)] (r₁, r₃, p) := .trans
    refine .step (fun u hu => ?_) hr
    rcases List.mem_pair.mp hu with rfl | rfl
    · exact ih₁
    · exact ih₂
  | flow _ he h₁ h₂ ih =>
    refine .step (fun u hu => ?_) (.flow he h₁ h₂)
    rw [List.mem_singleton.mp hu]
    exact ih

theorem requires_of_derivable {f : Facts} {t : Region × Loan × PointIndex}
    (h : Derivable (RequiresRule f (Subset f)) (· ∈ f.borrowRegion) t) :
    Requires f t.1 t.2.1 t.2.2 := by
  induction h with
  | base hb => exact .base hb
  | step _ hr ih =>
    cases hr with
    | @widen r₁ r₂ l p hs =>
      have hp := ih (r₁, l, p) (by simp)
      exact .widen hp hs
    | @flow r l p q hk he hl =>
      have hp := ih (r, l, p) (by simp)
      exact .flow hp hk he hl

theorem derivable_of_requires {f : Facts} {r : Region} {l : Loan} {p : PointIndex}
    (h : Requires f r l p) :
    Derivable (RequiresRule f (Subset f)) (· ∈ f.borrowRegion) (r, l, p) := by
  induction h with
  | base hb => exact .base hb
  | widen _ hs ih =>
    refine .step (fun u hu => ?_) (.widen hs)
    rw [List.mem_singleton.mp hu]
    exact ih
  | flow _ hk he hl ih =>
    refine .step (fun u hu => ?_) (.flow hk he hl)
    rw [List.mem_singleton.mp hu]
    exact ih

/-! ### The joins -/

theorem mem_joinSubset {f : Facts} {known delta : List (Region × Region × PointIndex)}
    {t : Region × Region × PointIndex} :
    t ∈ joinSubset f known delta ↔
      (∃ r₁ r₂ r₃ p, ((r₁, r₂, p) ∈ delta ∧ (r₂, r₃, p) ∈ known ∨
        (r₁, r₂, p) ∈ known ∧ (r₂, r₃, p) ∈ delta) ∧ t = (r₁, r₃, p)) ∨
      ∃ r₁ r₂ p q, (r₁, r₂, p) ∈ delta ∧ (p, q) ∈ f.cfgEdge ∧ (r₁, q) ∈ f.regionLiveAt ∧
        (r₂, q) ∈ f.regionLiveAt ∧ t = (r₁, r₂, q) := by
  simp only [joinSubset, List.mem_flatMap, List.mem_append, List.mem_filterMap, Prod.exists]
  constructor
  · rintro ⟨r₁, r₂, p, hd, (⟨s, r₃, q, hk, h⟩ | ⟨r₀, s, q, hk, h⟩) | ⟨o, q, he, h⟩⟩
    · split at h
      · obtain ⟨rfl, rfl⟩ := ‹_ ∧ _›
        exact .inl ⟨r₁, s, r₃, q, .inl ⟨hd, hk⟩, (Option.some_inj.mp h).symm⟩
      · simp at h
    · split at h
      · obtain ⟨rfl, rfl⟩ := ‹_ ∧ _›
        exact .inl ⟨r₀, s, r₂, q, .inr ⟨hk, hd⟩, (Option.some_inj.mp h).symm⟩
      · simp at h
    · split at h
      · obtain ⟨rfl, h₁, h₂⟩ := ‹_ ∧ _ ∧ _›
        exact .inr ⟨r₁, r₂, o, q, hd, he, h₁, h₂, (Option.some_inj.mp h).symm⟩
      · simp at h
  · rintro (⟨r₁, r₂, r₃, p, ⟨hd, hk⟩ | ⟨hk, hd⟩, rfl⟩ | ⟨r₁, r₂, p, q, hd, he, h₁, h₂, rfl⟩)
    · exact ⟨r₁, r₂, p, hd, .inl (.inl ⟨r₂, r₃, p, hk, by simp⟩)⟩
    · exact ⟨r₂, r₃, p, hd, .inl (.inr ⟨r₁, r₂, p, hk, by simp⟩)⟩
    · exact ⟨r₁, r₂, p, hd, .inr ⟨p, q, he, by simp [h₁, h₂]⟩⟩

theorem joinsBy_joinSubset (f : Facts) : JoinsBy (joinSubset f) (SubsetRule f) := by
  intro known delta hsub t
  rw [mem_joinSubset]
  constructor
  · rintro (⟨r₁, r₂, r₃, p, ⟨hd, hk⟩ | ⟨hk, hd⟩, rfl⟩ | ⟨r₁, r₂, p, q, hd, he, h₁, h₂, rfl⟩)
    · exact ⟨[(r₁, r₂, p), (r₂, r₃, p)], by simp [hsub hd, hk], ⟨_, by simp, hd⟩, .trans⟩
    · exact ⟨[(r₁, r₂, p), (r₂, r₃, p)], by simp [hsub hd, hk],
        ⟨(r₂, r₃, p), by simp, hd⟩, .trans⟩
    · exact ⟨[(r₁, r₂, p)], by simp [hsub hd], ⟨_, by simp, hd⟩, .flow he h₁ h₂⟩
  · rintro ⟨premises, hknown, ⟨u, hu, hd⟩, hr⟩
    cases hr with
    | @trans r₁ r₂ r₃ p =>
      refine .inl ⟨r₁, r₂, r₃, p, ?_, rfl⟩
      rcases List.mem_pair.mp hu with rfl | rfl
      · exact .inl ⟨hd, hknown (by simp)⟩
      · exact .inr ⟨hknown (by simp), hd⟩
    | @flow r₁ r₂ p q he h₁ h₂ =>
      rw [List.mem_singleton.mp hu] at hd
      exact .inr ⟨r₁, r₂, p, q, hd, he, h₁, h₂, rfl⟩

theorem mem_joinRequires {f : Facts} {subset : List (Region × Region × PointIndex)}
    {delta : List (Region × Loan × PointIndex)} {t : Region × Loan × PointIndex} :
    t ∈ joinRequires f subset delta ↔
      (∃ r₁ r₂ l p, (r₁, l, p) ∈ delta ∧ (r₁, r₂, p) ∈ subset ∧ t = (r₂, l, p)) ∨
      ∃ r l p q, (r, l, p) ∈ delta ∧ (l, p) ∉ f.killed ∧ (p, q) ∈ f.cfgEdge ∧
        (r, q) ∈ f.regionLiveAt ∧ t = (r, l, q) := by
  simp only [joinRequires, List.mem_flatMap, List.mem_append, List.mem_filterMap, Prod.exists]
  constructor
  · rintro ⟨r, l, p, hd, ⟨s, r₂, q, hs, h⟩ | h⟩
    · split at h
      · obtain ⟨rfl, rfl⟩ := ‹_ ∧ _›
        exact .inl ⟨s, r₂, l, q, hd, hs, (Option.some_inj.mp h).symm⟩
      · simp at h
    · split at h
      · simp at h
      · rename_i hk
        obtain ⟨⟨o, q⟩, he, ht⟩ := List.mem_filterMap.mp h
        simp only at ht
        split at ht
        · obtain ⟨rfl, hl⟩ := ‹_ ∧ _›
          exact .inr ⟨r, l, o, q, hd, hk, he, hl, (Option.some_inj.mp ht).symm⟩
        · simp at ht
  · rintro (⟨r₁, r₂, l, p, hd, hs, rfl⟩ | ⟨r, l, p, q, hd, hk, he, hl, rfl⟩)
    · exact ⟨r₁, l, p, hd, .inl ⟨r₁, r₂, p, hs, by simp⟩⟩
    · refine ⟨r, l, p, hd, .inr ?_⟩
      rw [if_neg hk, List.mem_filterMap]
      exact ⟨(p, q), he, by simp [hl]⟩

theorem joinsBy_joinRequires (f : Facts) (subset : List (Region × Region × PointIndex)) :
    JoinsBy (fun _ => joinRequires f subset)
      (RequiresRule f fun r₁ r₂ p => (r₁, r₂, p) ∈ subset) := by
  intro known delta hsub t
  rw [mem_joinRequires]
  constructor
  · rintro (⟨r₁, r₂, l, p, hd, hs, rfl⟩ | ⟨r, l, p, q, hd, hk, he, hl, rfl⟩)
    · exact ⟨[(r₁, l, p)], by simp [hsub hd], ⟨_, by simp, hd⟩, .widen hs⟩
    · exact ⟨[(r, l, p)], by simp [hsub hd], ⟨_, by simp, hd⟩, .flow hk he hl⟩
  · rintro ⟨premises, -, ⟨u, hu, hd⟩, hr⟩
    cases hr with
    | @widen r₁ r₂ l p hs =>
      rw [List.mem_singleton.mp hu] at hd
      exact .inl ⟨r₁, r₂, l, p, hd, hs, rfl⟩
    | @flow r l p q hk he hl =>
      rw [List.mem_singleton.mp hu] at hd
      exact .inr ⟨r, l, p, q, hd, hk, he, hl, rfl⟩

/-! ### The relations of a run -/

section Relations

variable {f : Facts} {allowed : Nat} {subset : Saturated (Region × Region × PointIndex)}
  {requires : Saturated (Region × Loan × PointIndex)}

theorem relations_eq_ok_iff : relations f allowed = .ok (subset, requires) ↔
    saturate (joinSubset f) allowed f.outlives.eraseDups f.outlives.eraseDups = .ok subset ∧
      saturate (fun _ => joinRequires f subset.tuples) (allowed - subset.rounds)
        f.borrowRegion.eraseDups f.borrowRegion.eraseDups = .ok requires := by
  constructor
  · intro h
    rw [relations] at h
    split at h
    · cases h
    · rename_i s hs
      split at h
      · cases h
      · rename_i r hr
        obtain ⟨rfl, rfl⟩ := Prod.mk.inj (Except.ok.inj h)
        exact ⟨hs, hr⟩
  · rintro ⟨hs, hr⟩
    simp only [relations, hs, hr]

/-- The first relation of a run is `Subset`. -/
theorem mem_subset_iff (h : relations f allowed = .ok (subset, requires)) {r₁ r₂ : Region}
    {p : PointIndex} : (r₁, r₂, p) ∈ subset.tuples ↔ Subset f r₁ r₂ p := by
  obtain ⟨hs, -⟩ := relations_eq_ok_iff.mp h
  rw [mem_saturate_iff (joinsBy_joinSubset f) (fun _ hr => nomatch hr)
    (fun _ => List.mem_eraseDups) hs]
  exact ⟨fun hd => subset_of_derivable hd, derivable_of_subset⟩

/-- The second relation of a run is `Requires`. -/
theorem mem_requires_iff (h : relations f allowed = .ok (subset, requires)) {r : Region}
    {l : Loan} {p : PointIndex} : (r, l, p) ∈ requires.tuples ↔ Requires f r l p := by
  obtain ⟨-, hr⟩ := relations_eq_ok_iff.mp h
  have hcontained : (fun r₁ r₂ p => (r₁, r₂, p) ∈ subset.tuples) = Subset f := by
    funext r₁ r₂ p
    exact propext (mem_subset_iff h)
  have hjoin := joinsBy_joinRequires f subset.tuples
  rw [hcontained] at hjoin
  rw [mem_saturate_iff hjoin (fun _ hr => nomatch hr) (fun _ => List.mem_eraseDups) hr]
  exact ⟨fun hd => requires_of_derivable hd, derivable_of_requires⟩

end Relations

/-! ### The answer -/

namespace Output

/-- The regions that contain a region at a point. -/
def supersetsAt (o : Output) (p : PointIndex) (r : Region) : List Region :=
  entry r (entry p o.subset)

/-- The loans that a region requires at a point. -/
def requiredAt (o : Output) (p : PointIndex) (r : Region) : List Loan :=
  entry r (entry p o.restricts)

/-- The loans that are errors at a point. -/
def errorsAt (o : Output) (p : PointIndex) : List Loan :=
  entry p o.errors

theorem liveAt_eq_entry (o : Output) (p : PointIndex) : o.liveAt p = entry p o.borrowLive := rfl

/-- All maps of an answer are in order, and no key is bound to nothing. -/
structure IsOrdered (o : Output) : Prop where
  borrowLive : IsSetMap o.borrowLive
  subset : IsNestedMap o.subset
  restricts : IsNestedMap o.restricts
  errors : IsSetMap o.errors

/-- No key of an answer is bound to an empty set or map. -/
def HasNoEmptyKey (o : Output) : Prop :=
  (∀ x ∈ o.subset, x.2 ≠ [] ∧ ∀ y ∈ x.2, y.2 ≠ []) ∧
    (∀ x ∈ o.restricts, x.2 ≠ [] ∧ ∀ y ∈ x.2, y.2 ≠ []) ∧
    (∀ x ∈ o.borrowLive, x.2 ≠ []) ∧ ∀ x ∈ o.errors, x.2 ≠ []

/-- Two answers that hold the same are equal. -/
theorem IsOrdered.ext {o o' : Output} (h : o.IsOrdered) (h' : o'.IsOrdered)
    (hlive : ∀ p l, l ∈ o.liveAt p ↔ l ∈ o'.liveAt p)
    (hsubset : ∀ p r₁ r₂, r₂ ∈ o.supersetsAt p r₁ ↔ r₂ ∈ o'.supersetsAt p r₁)
    (hrestricts : ∀ p r l, l ∈ o.requiredAt p r ↔ l ∈ o'.requiredAt p r)
    (herrors : ∀ p l, l ∈ o.errorsAt p ↔ l ∈ o'.errorsAt p) : o = o' := by
  have hlive' : o.borrowLive = o'.borrowLive := h.borrowLive.ext h'.borrowLive hlive
  have hsubset' : o.subset = o'.subset := h.subset.ext h'.subset hsubset
  have hrestricts' : o.restricts = o'.restricts := h.restricts.ext h'.restricts hrestricts
  have herrors' : o.errors = o'.errors := h.errors.ext h'.errors herrors
  obtain ⟨borrowLive, subset, restricts, errors⟩ := o
  obtain ⟨_, _, _, _⟩ := o'
  simp only at hlive' hsubset' hrestricts' herrors'
  rw [hlive', hsubset', hrestricts', herrors']

theorem IsOrdered.hasNoEmptyKey {o : Output} (h : o.IsOrdered) : o.HasNoEmptyKey :=
  ⟨h.subset.bound_twice, h.restricts.bound_twice, h.borrowLive.bound, h.errors.bound⟩

end Output

theorem isOrdered_answer (f : Facts) (subset : List (Region × Region × PointIndex))
    (requires : List (Region × Loan × PointIndex)) : (answer f subset requires).IsOrdered where
  borrowLive := isSetMap_group _
  subset := isNestedMap_groupTwice _
  restricts := isNestedMap_groupTwice _
  errors := isSetMap_group _

theorem mem_livePairs {f : Facts} {requires : List (Region × Loan × PointIndex)} {p : PointIndex}
    {l : Loan} :
    (p, l) ∈ livePairs f requires ↔ ∃ r, (r, l, p) ∈ requires ∧ (r, p) ∈ f.regionLiveAt := by
  simp only [livePairs, List.mem_filterMap, Prod.exists]
  constructor
  · rintro ⟨r, l', p', hr, h⟩
    split at h
    · rename_i hlive
      obtain ⟨rfl, rfl⟩ := Prod.mk.inj (Option.some_inj.mp h)
      exact ⟨r, hr, hlive⟩
    · simp at h
  · rintro ⟨r, hr, hlive⟩
    exact ⟨r, l, p, hr, by simp [hlive]⟩

/-- A run that ends gives the answer of its two relations. -/
theorem solve_eq_ok {f : Facts} {bound : Int} {o : Output} (h : (solve f bound).result = .ok o) :
    ∃ subset requires, relations f bound.toNat = .ok (subset, requires) ∧
      o = answer f subset.tuples requires.tuples := by
  rw [solve] at h
  split at h
  · simp at h
  · rename_i subset requires hrel
    exact ⟨subset, requires, hrel, (Except.ok.inj h).symm⟩

section Solved

variable {f : Facts} {bound : Int} {o : Output}

theorem isOrdered_of_solve (h : (solve f bound).result = .ok o) : o.IsOrdered := by
  obtain ⟨subset, requires, -, rfl⟩ := solve_eq_ok h
  exact isOrdered_answer _ _ _

theorem mem_supersetsAt_iff (h : (solve f bound).result = .ok o) {p : PointIndex}
    {r₁ r₂ : Region} : r₂ ∈ o.supersetsAt p r₁ ↔ Subset f r₁ r₂ p := by
  obtain ⟨subset, requires, hrel, rfl⟩ := solve_eq_ok h
  rw [Output.supersetsAt, answer, mem_entry_groupTwice, mem_subset_iff hrel]

theorem mem_requiredAt_iff (h : (solve f bound).result = .ok o) {p : PointIndex} {r : Region}
    {l : Loan} : l ∈ o.requiredAt p r ↔ Requires f r l p := by
  obtain ⟨subset, requires, hrel, rfl⟩ := solve_eq_ok h
  rw [Output.requiredAt, answer, mem_entry_groupTwice, mem_requires_iff hrel]

theorem mem_liveAt_iff (h : (solve f bound).result = .ok o) {p : PointIndex} {l : Loan} :
    l ∈ o.liveAt p ↔ ∃ r, Requires f r l p ∧ (r, p) ∈ f.regionLiveAt := by
  obtain ⟨subset, requires, hrel, rfl⟩ := solve_eq_ok h
  rw [Output.liveAt_eq_entry, answer, mem_entry_group, mem_livePairs]
  exact exists_congr fun r => and_congr_left fun _ => mem_requires_iff hrel

theorem mem_errorsAt_iff (h : (solve f bound).result = .ok o) {p : PointIndex} {l : Loan} :
    l ∈ o.errorsAt p ↔ (p, l) ∈ f.invalidates ∧ l ∈ o.liveAt p := by
  obtain ⟨subset, requires, -, rfl⟩ := solve_eq_ok h
  rw [Output.errorsAt, Output.liveAt_eq_entry, answer, mem_entry_group, mem_entry_group,
    List.mem_filter]
  exact and_congr_right fun _ => List.contains_iff_mem

/-- **The answer is the least model of the rules.**  Each map holds exactly what is derivable,
its keys are distinct, and no key is bound to an empty set or map. -/
theorem solve_least_model (h : (solve f bound).result = .ok o) :
    (∀ p r₁ r₂, r₂ ∈ o.supersetsAt p r₁ ↔ Subset f r₁ r₂ p) ∧
      (∀ p r l, l ∈ o.requiredAt p r ↔ Requires f r l p) ∧
      (∀ p l, l ∈ o.liveAt p ↔ ∃ r, Requires f r l p ∧ (r, p) ∈ f.regionLiveAt) ∧
      (∀ p l, l ∈ o.errorsAt p ↔ (p, l) ∈ f.invalidates ∧ l ∈ o.liveAt p) ∧
      o.IsOrdered ∧ o.HasNoEmptyKey := by
  have hordered := isOrdered_of_solve h
  refine ⟨?_, ?_, ?_, ?_, hordered, hordered.hasNoEmptyKey⟩
  · intro p r₁ r₂
    exact mem_supersetsAt_iff h
  · intro p r l
    exact mem_requiredAt_iff h
  · intro p l
    exact mem_liveAt_iff h
  · intro p l
    exact mem_errorsAt_iff h

end Solved

/-- Three regions that contain each other in a ring; the loan of the first is killed one point
on. -/
def ringFacts : Facts :=
  { outlives := [(1, 2, 0), (2, 3, 0), (3, 1, 0)]
    borrowRegion := [(1, 7, 0)]
    cfgEdge := [(0, 1), (1, 2)]
    regionLiveAt := [(1, 1), (3, 1), (3, 2)]
    killed := [(7, 1)]
    invalidates := [(1, 7), (2, 7)] }

/-- What follows from them. -/
def ringAnswer : Output :=
  { borrowLive := [(1, [7])]
    subset :=
      [(0, [(1, [1, 2, 3]), (2, [1, 2, 3]), (3, [1, 2, 3])]), (1, [(1, [1, 3]), (3, [1, 3])]),
        (2, [(3, [3])])]
    restricts := [(0, [(1, [7]), (2, [7]), (3, [7])]), (1, [(1, [7]), (3, [7])])]
    errors := [(1, [7])] }

theorem ringAnswer_least_model :
    (solve ringFacts 8).result = .ok ringAnswer ∧
      (∀ p r₁ r₂, r₂ ∈ ringAnswer.supersetsAt p r₁ ↔ Subset ringFacts r₁ r₂ p) ∧
      (∀ p r l, l ∈ ringAnswer.requiredAt p r ↔ Requires ringFacts r l p) ∧
      (∀ p l, l ∈ ringAnswer.liveAt p ↔
        ∃ r, Requires ringFacts r l p ∧ (r, p) ∈ ringFacts.regionLiveAt) ∧
      (∀ p l, l ∈ ringAnswer.errorsAt p ↔
        (p, l) ∈ ringFacts.invalidates ∧ l ∈ ringAnswer.liveAt p) ∧
      ringAnswer.IsOrdered ∧ ringAnswer.HasNoEmptyKey := by
  have h : (solve ringFacts 8).result = .ok ringAnswer := by cbv
  exact ⟨h, solve_least_model h⟩

end BorrowGraph.Liveness
