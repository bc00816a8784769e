/-
Completion under other names.

Completion visits points in the order of their numbers and numbers the loans that it issues in
that order.  If the points have other names, the same loans are issued, but under other
numbers:

* `fits_of_run`: a pass that succeeds can write all its numbers;
* `isEligible_renamed`, `isIssued_renamed`: the same is planned at a point under its other
  name;
* `mem_numbered_iff`: since nothing is planned twice, a loan is known by its point and the
  reason for its issue;
* `run_renamed`: a pass succeeds under both names or under neither, and there is a renaming of
  the issued loans.
-/
import BorrowGraph.Proofs.AnalysisResult
import BorrowGraph.Proofs.Renaming

namespace BorrowGraph.Completion

/-! ### Numbers that can be written -/

section Fits

variable {f : Facts} {table : PointTable} {body : Body} {owners : Owners}

theorem Pass.issueAll_fits {l : Location} {p : PointIndex} {issues : List Issue} {s s' : Pass}
    (h : s.issueAll l p issues = (s', none)) :
    (∀ x ∈ numbered s.next (issues.map fun i => (p, i)), Decimal.fits x.loan = true) ∧
      s'.next = s.next + (issues.length : Nat) := by
  induction issues generalizing s with
  | nil =>
    obtain ⟨rfl, -⟩ := Prod.mk.inj h
    exact ⟨by simp [numbered], (Int.add_zero _).symm⟩
  | cons i issues ih =>
    rw [issueAll] at h
    by_cases hfits : Decimal.fits s.next = true
    · rw [issue, if_pos hfits] at h
      obtain ⟨hrest, hnext⟩ := ih h
      refine ⟨List.forall_mem_cons.mpr ⟨hfits, hrest⟩, ?_⟩
      have hfirst : ((s.add p i).note (entry l s.next i)).next = s.next + 1 := rfl
      rw [hnext, hfirst, List.length_cons]
      lia
    · -- A pass stops at the first number that cannot be written.
      rw [issue, if_neg hfits] at h
      split at h
      · simp only [reduceCtorEq, Prod.mk.injEq, and_false] at h
      · rename_i hissue
        split at hissue
        · simp at hissue
        · simp at hissue

theorem Pass.completeAt_fits {s s' : Pass} {p : PointIndex} {issues : List Issue}
    (hp : f.innerPairs p ≠ []) (h : IsIssued f table body owners (p, issues))
    (hdone : s.completeAt table body owners p (f.outlivesAt p) = (s', none)) :
    (∀ x ∈ numbered s.next (issues.map fun i => (p, i)), Decimal.fits x.loan = true) ∧
      s'.next = s.next + (issues.length : Nat) := by
  obtain ⟨place, hplace, hin, hat⟩ := h
  have hl : locationOf table body p = .ok place.location :=
    locationOf_eq_ok_iff.mpr ⟨place, hplace, hin, rfl⟩
  obtain ⟨found, hfound, hat'⟩ : ∃ issues,
      issuesAt body owners place.location (f.outlivesAt p) = .ok issues ∧
        IssuedAt f body owners p place.location issues := issuesAt_eq_ok hin hp
  obtain rfl := hat.unique hat'
  rw [completeAt, hl] at hdone
  simp only [hfound] at hdone
  -- What is logged for a call changes no number.
  obtain ⟨s₀, hs₀⟩ :
      ∃ s₀, ((callEntry body place.location (f.outlivesAt p)).map s.note).getD s = s₀ :=
    ⟨_, rfl⟩
  have hnext : s₀.next = s.next := by
    rw [← hs₀]
    rcases callEntry body place.location (f.outlivesAt p) with _ | message
    · rfl
    · rfl
  rw [hs₀] at hdone
  rcases hall : s₀.issueAll place.location p issues with ⟨s₁, _ | e⟩
  · rw [hall] at hdone
    obtain ⟨rfl, -⟩ := Prod.mk.inj hdone
    rw [← hnext]
    exact issueAll_fits hall
  · rw [hall] at hdone
    simp at hdone

theorem Pass.completeAll_fits {plan : List (PointIndex × List Issue)} {s s' : Pass}
    (hpairs : ∀ x ∈ plan, f.innerPairs x.1 ≠ [])
    (hplan : ∀ x ∈ plan, IsIssued f table body owners x)
    (hdone : s.completeAll table body owners
      ((plan.map Prod.fst).map fun p => (p, f.outlivesAt p)) = (s', none)) :
    ∀ x ∈ numbered s.next (planned plan), Decimal.fits x.loan = true := by
  induction plan generalizing s with
  | nil => simp [planned, numbered]
  | cons x plan ih =>
    obtain ⟨p, issues⟩ := x
    rw [List.forall_mem_cons] at hpairs hplan
    rw [List.map_cons, List.map_cons, completeAll] at hdone
    have hplanned : planned ((p, issues) :: plan) =
        (issues.map fun i => (p, i)) ++ planned plan := List.flatMap_cons
    rcases hat : s.completeAt table body owners p (f.outlivesAt p) with ⟨s₁, _ | e⟩
    · rw [hat] at hdone
      obtain ⟨hfirst, hnext⟩ := completeAt_fits hpairs.1 hplan.1 hat
      have hrest := ih hpairs.2 hplan.2 hdone
      -- The other points are numbered from where this one has stopped.
      rw [hplanned, numbered_append, List.length_map, ← hnext]
      intro x hx
      rcases List.mem_append.mp hx with hx | hx
      · exact hfirst x hx
      · exact hrest x hx
    · rw [hat] at hdone
      simp at hdone

/-- A pass that succeeds can write all its numbers. -/
theorem fits_of_run {plan : List (PointIndex × List Issue)}
    (hpoints : plan.map Prod.fst = eligiblePoints f)
    (hplan : ∀ x ∈ plan, IsIssued f table body owners x)
    (h : (run f table body owners).2 = none) :
    ∀ x ∈ numbered (firstLoan f) (planned plan), Decimal.fits x.loan = true := by
  have hpairs : ∀ x ∈ plan, f.innerPairs x.1 ≠ [] :=
    innerPairs_of_planned (hpoints.symm.trans (List.append_nil _).symm)
  rw [run] at h
  rcases hall : (startPass f []).completeAll table body owners (eligible f) with ⟨s, _ | e⟩
  · rw [eligible_eq, ← hpoints] at hall
    exact Pass.completeAll_fits hpairs hplan hall
  · rw [startPass] at hall
    rw [hall] at h
    simp at h

end Fits

/-! ### Plans -/

section Plan

variable {f : Facts} {table : PointTable} {body : Body} {owners : Owners}
  {plan : List (PointIndex × List Issue)}

theorem mem_plan_iff (hpoints : plan.map Prod.fst = eligiblePoints f)
    (hplan : ∀ x ∈ plan, IsIssued f table body owners x) {x : PointIndex × List Issue} :
    x ∈ plan ↔ IsEligible f x.1 ∧ IsIssued f table body owners x := by
  constructor
  · intro hx
    refine ⟨mem_eligiblePoints.mp ?_, hplan x hx⟩
    rw [← hpoints]
    exact List.mem_map_of_mem hx
  · rintro ⟨heligible, hissued⟩
    have hmem := mem_eligiblePoints.mpr heligible
    rw [← hpoints] at hmem
    obtain ⟨y, hy, hyx⟩ := List.mem_map.mp hmem
    -- The plan has an entry for the point, and there is only one that it can have.
    obtain ⟨p, xs⟩ := x
    obtain ⟨q, ys⟩ := y
    simp only at hyx
    subst hyx
    rw [hissued.unique (hplan _ hy)]
    exact hy

theorem mem_planned {x : PointIndex × Issue} :
    x ∈ planned plan ↔ ∃ issues, (x.1, issues) ∈ plan ∧ x.2 ∈ issues := by
  obtain ⟨p, i⟩ := x
  simp only [planned, List.mem_flatMap, List.mem_map, Prod.mk.injEq, Prod.exists]
  constructor
  · rintro ⟨q, issues, hmem, j, hj, rfl, rfl⟩
    exact ⟨issues, hmem, hj⟩
  · rintro ⟨issues, hmem, hi⟩
    exact ⟨p, issues, hmem, i, hi, rfl, rfl⟩

theorem nodup_innerPairs (hf : f.outlives.Nodup) (p : PointIndex) : (f.innerPairs p).Nodup := by
  refine hf.filterMap ?_
  rintro ⟨r₁, r₂, q⟩ ⟨s₁, s₂, q'⟩ a ha ha'
  simp only [Option.mem_def, Option.ite_none_right_eq_some, Option.some_inj] at ha ha'
  obtain ⟨⟨rfl, -⟩, rfl⟩ := ha
  obtain ⟨⟨rfl, -⟩, heq⟩ := ha'
  obtain ⟨rfl, rfl⟩ := Prod.mk.inj heq
  rfl

theorem resultIssue_cases (owners : Owners) (destination : Option Place) :
    resultIssue owners destination = [] ∨
      ∃ target r, resultIssue owners destination = [⟨.result target, r⟩] := by
  rw [resultIssue.eq_def]
  split
  · exact .inl rfl
  · split
    · exact .inl rfl
    · exact .inr ⟨_, _, rfl⟩

/-- Nothing is issued twice at a location. -/
theorem IssuedAt.nodup (hf : f.outlives.Nodup) {p : PointIndex} {l : Location}
    {issues : List Issue} (h : IssuedAt f body owners p l issues) : issues.Nodup := by
  cases h with
  | @call destination pairs _ hpairs =>
    have harguments : (pairs.map fun a => (⟨.argument a.2, a.1⟩ : Issue)).Nodup := by
      refine (hpairs.perm.nodup_iff.mpr (nodup_innerPairs hf p)).map ?_
      rintro ⟨r₁, r₂⟩ ⟨s₁, s₂⟩ heq
      simp only [Issue.mk.injEq, Origin.argument.injEq] at heq
      exact Prod.ext heq.2 heq.1
    rw [← resultIssue_eq]
    rcases resultIssue_cases owners destination with hresult | ⟨target, r, hresult⟩
    · rw [hresult]
      exact harguments
    · -- The loan for the result has another reason than those for arguments.
      rw [hresult]
      refine List.nodup_cons.mpr ⟨fun hmem => ?_, harguments⟩
      obtain ⟨a, -, heq⟩ := List.mem_map.mp hmem
      simp at heq
  | assignment => exact List.nodup_singleton _
  | other => exact List.nodup_nil

theorem nodup_planned (hf : f.outlives.Nodup) (hpoints : plan.map Prod.fst <+: eligiblePoints f)
    (hplan : ∀ x ∈ plan, IsIssued f table body owners x) : (planned plan).Nodup := by
  have hnodup : (plan.map Prod.fst).Nodup :=
    ((ascending_eligiblePoints f).sublist hpoints.sublist).nodup
  rw [planned, List.nodup_flatMap]
  constructor
  · intro x hx
    obtain ⟨_, -, -, hat⟩ := hplan x hx
    exact (hat.nodup hf).map fun i j hij => (Prod.mk.inj hij).2
  · refine (List.pairwise_map.mp hnodup).imp fun {x y} hne z hz hz' => ?_
    obtain ⟨i, -, rfl⟩ := List.mem_map.mp hz
    obtain ⟨j, -, hj⟩ := List.mem_map.mp hz'
    exact hne (Prod.mk.inj hj).1.symm

/-- Where nothing is planned twice, the number of a loan tells where and why it was issued. -/
theorem mem_numbered_iff {first : Loan} {items : List (PointIndex × Issue)} (hitems : items.Nodup)
    {x : Issued} :
    x ∈ numbered first items ↔ (x.point, x.issue) ∈ items ∧
      x.loan = first + (items.idxOf (x.point, x.issue) : Nat) := by
  obtain ⟨loan, p, i⟩ := x
  induction items generalizing first with
  | nil => simp [numbered]
  | cons y items ih =>
    obtain ⟨q, j⟩ := y
    rw [List.nodup_cons] at hitems
    simp only [numbered, List.mem_cons, Issued.mk.injEq, ih hitems.2, List.idxOf_cons,
      beq_iff_eq, cond_eq_ite]
    by_cases heq : (q, j) = (p, i)
    · obtain ⟨rfl, rfl⟩ := Prod.mk.inj heq
      simp [hitems.1]
    · have hne : ¬ ((p, i) : PointIndex × Issue) = (q, j) := fun h => heq h.symm
      have hne' : ¬ (p = q ∧ i = j) := fun h => hne (Prod.ext h.1 h.2)
      rw [if_neg heq]
      simp only [hne, hne', and_false, false_or]
      exact and_congr_right fun _ => by lia

end Plan

/-! ### Loans under other names -/

/-- The loan, where loans and points have other names. -/
def Issued.rename (π : Equiv.Perm PointIndex) (σ : Equiv.Perm Loan) : Issued ≃ Issued where
  toFun x := ⟨σ x.loan, π x.point, x.issue⟩
  invFun x := ⟨σ.symm x.loan, π.symm x.point, x.issue⟩
  left_inv x := by simp
  right_inv x := by simp

/-- The same loans were issued for the same reasons, up to their names. -/
structure Renamed (σ : Equiv.Perm Loan) (c d : Completion) : Prop where
  referenceMoves : (c.referenceMoves.map σ).Perm d.referenceMoves
  argumentMoves : (c.argumentMoves.map σ).Perm d.argumentMoves
  callResults : (c.callResults.map fun x => (σ x.1, x.2)).Perm d.callResults

theorem nodup_numbered (first : Loan) (items : List (PointIndex × Issue)) :
    (numbered first items).Nodup :=
  (ascending_numbered first items).imp fun hlt heq => by
    rw [heq] at hlt
    exact absurd hlt (Int.lt_irrefl _)

section Names

variable {π : Equiv.Perm PointIndex} {σ : Equiv.Perm Loan} {first : Loan}
  {items items' : List (PointIndex × Issue)}
  (h : ∀ x : Issued, Issued.rename π σ x ∈ numbered first items' ↔ x ∈ numbered first items)
include h

/-- Loans that are the same up to names are recorded in the same way. -/
theorem withIssued_renamed :
    Renamed σ (({} : Completion).withIssued (numbered first items))
      (({} : Completion).withIssued (numbered first items')) := by
  have hperm := perm_map_of_mem_iff (nodup_numbered first items) (nodup_numbered first items') h
  have hmoves : ∀ x, Issued.move? (Issued.rename π σ x) = (Issued.move? x).map σ := by
    rintro ⟨l, p, ⟨origin, r⟩⟩
    cases origin <;> rfl
  have harguments : ∀ x, Issued.argument? (Issued.rename π σ x) = (Issued.argument? x).map σ := by
    rintro ⟨l, p, ⟨origin, r⟩⟩
    cases origin <;> rfl
  have hresults : ∀ x, Issued.result? (Issued.rename π σ x) =
      (Issued.result? x).map fun y => (σ y.1, y.2) := by
    rintro ⟨l, p, ⟨origin, r⟩⟩
    cases origin <;> rfl
  -- Each record picks loans by the reason for their issue, which has no other name.
  refine ⟨?_, ?_, ?_⟩
  · have hmap := hperm.filterMap Issued.move?
    rw [List.filterMap_map] at hmap
    simpa [withIssued, List.map_filterMap, Function.comp_def, hmoves] using hmap
  · have hmap := hperm.filterMap Issued.argument?
    rw [List.filterMap_map] at hmap
    simpa [withIssued, List.map_filterMap, Function.comp_def, harguments] using hmap
  · have hmap := hperm.filterMap Issued.result?
    rw [List.filterMap_map] at hmap
    rw [callResults_withIssued, callResults_withIssued, List.map_filterMap]
    simpa [Function.comp_def, hresults] using hmap

omit h in
/-- A renaming that keeps all names below a bound keeps what is said of these names alone. -/
theorem iff_of_kept (hσ : ∀ l, l < first → σ l = l) {P Q : Loan → Prop} (hP : ∀ l, P l → l < first)
    (hQ : ∀ l, Q l → l < first) (hPQ : ∀ l, Q l ↔ P l) (l : Loan) : Q (σ l) ↔ P l := by
  constructor
  · intro hl
    -- No other loan takes one of the kept names.
    have hkept : σ l = l := σ.injective (hσ (σ l) (hQ _ hl))
    rw [hkept, hPQ] at hl
    exact hl
  · intro hl
    rw [hσ l (hP l hl), hPQ]
    exact hl

/-- Facts with loans that are the same up to names are so, too, if no other loan changes its
name. -/
theorem facts_withIssued_renamed {f g : Facts} (hfacts : Facts.Renamed π (Equiv.refl _) f g)
    (hf : ∀ l, f.Mentions l → l < first) (hg : ∀ l, g.Mentions l → l < first)
    (hσ : ∀ l, l < first → σ l = l) :
    Facts.Renamed π σ (f.withIssued (numbered first items))
      (g.withIssued (numbered first items')) := by
  refine ⟨fun r l p => ?_, hfacts.universalRegion, hfacts.outlives, hfacts.regionLiveAt,
    hfacts.cfgEdge, fun l p => ?_, fun p l => ?_⟩
  · rw [Facts.mem_withIssued, Facts.mem_withIssued]
    refine or_congr ?_ ?_
    · constructor
      · rintro ⟨y, hy, heq⟩
        obtain ⟨x, rfl⟩ := (Issued.rename π σ).surjective y
        refine ⟨x, (h x).mp hy, ?_⟩
        obtain ⟨hr, hl, hp⟩ := by simpa [Issued.tuple, Issued.rename] using heq
        rw [Issued.tuple, hr, hl, hp]
      · rintro ⟨x, hx, heq⟩
        refine ⟨Issued.rename π σ x, (h x).mpr hx, ?_⟩
        obtain ⟨rfl, rfl, rfl⟩ := by simpa [Issued.tuple] using heq
        rfl
    · exact iff_of_kept hσ (P := fun l => (r, l, p) ∈ f.borrowRegion)
        (Q := fun l => (r, l, π p) ∈ g.borrowRegion) (fun l hl => hf l (.inl ⟨r, p, hl⟩))
        (fun l hl => hg l (.inl ⟨r, π p, hl⟩)) (fun l => hfacts.borrowRegion r l p) l
  · exact iff_of_kept hσ (P := fun l => (l, p) ∈ f.killed) (Q := fun l => (l, π p) ∈ g.killed)
      (fun l hl => hf l (.inr (.inl ⟨p, hl⟩))) (fun l hl => hg l (.inr (.inl ⟨π p, hl⟩)))
      (fun l => hfacts.killed l p) l
  · exact iff_of_kept hσ (P := fun l => (p, l) ∈ f.invalidates)
      (Q := fun l => (π p, l) ∈ g.invalidates)
      (fun l hl => hf l (.inr (.inr ⟨p, hl⟩))) (fun l hl => hg l (.inr (.inr ⟨π p, hl⟩)))
      (fun l => hfacts.invalidates p l) l

end Names

/-- Completion repeats no tuple. -/
theorem nodup_borrowRegion_run {f : Facts} {table : PointTable} {body : Body} {owners : Owners}
    (hf : f.borrowRegion.Nodup) (h : (run f table body owners).2 = none) :
    (run f table body owners).1.facts.borrowRegion.Nodup := by
  obtain ⟨plan, -, -, hadds⟩ := run_adds h
  rw [hadds.facts]
  refine List.nodup_append.mpr ⟨List.nodup_reverse.mpr ?_, hf, ?_⟩
  · -- Different loans are created by different tuples.
    have hlt := ascending_numbered (startPass f []).next (planned plan)
    refine List.pairwise_map.mpr (hlt.imp fun {x y} hlt heq => ?_)
    have hloan : x.loan = y.loan := congrArg (fun t => t.2.1) heq
    exact absurd hlt (hloan ▸ Int.lt_irrefl _)
  · rintro t ht _ ht' rfl
    obtain ⟨x, hx, rfl⟩ := List.mem_map.mp (List.mem_reverse.mp ht)
    exact not_mentions_of_mem_numbered (isFirstLoan_firstLoan f) hx (.inl ⟨_, _, ht'⟩)

/-! ### Passes under other names -/

section Passes

variable {π : Equiv.Perm PointIndex} {f g : Facts} (h : Facts.Renamed π (Equiv.refl _) f g)
  {table table' : PointTable} {body : Body} {owners : Owners}

include h in
theorem mentions_renamed (l : Loan) : g.Mentions l ↔ f.Mentions l := by
  constructor
  · rintro (⟨r, p', hl⟩ | ⟨p', hl⟩ | ⟨p', hl⟩)
    · obtain ⟨p, rfl⟩ := π.surjective p'
      exact .inl ⟨r, p, (h.borrowRegion r l p).mp hl⟩
    · obtain ⟨p, rfl⟩ := π.surjective p'
      exact .inr (.inl ⟨p, (h.killed l p).mp hl⟩)
    · obtain ⟨p, rfl⟩ := π.surjective p'
      exact .inr (.inr ⟨p, (h.invalidates p l).mp hl⟩)
  · rintro (⟨r, p, hl⟩ | ⟨p, hl⟩ | ⟨p, hl⟩)
    · exact .inl ⟨r, π p, (h.borrowRegion r l p).mpr hl⟩
    · exact .inr (.inl ⟨π p, (h.killed l p).mpr hl⟩)
    · exact .inr (.inr ⟨π p, (h.invalidates p l).mpr hl⟩)

include h in
theorem firstLoan_renamed : firstLoan g = firstLoan f := by
  have hf := isFirstLoan_firstLoan f
  have hg := isFirstLoan_firstLoan g
  simp only [IsFirstLoan, mentions_renamed h] at hf hg
  rcases hf with ⟨m, hm, hle, hfirst⟩ | ⟨hnone, hfirst⟩
  · rcases hg with ⟨m', hm', hle', hfirst'⟩ | ⟨hnone', -⟩
    · have hmm' := hle m' hm'
      have hm'm := hle' m hm
      lia
    · exact absurd hm (hnone' m)
  · rcases hg with ⟨m', hm', -⟩ | ⟨-, hfirst'⟩
    · exact absurd hm' (hnone m')
    · rw [hfirst, hfirst']

include h in
theorem isEligible_renamed (p : PointIndex) : IsEligible g (π p) ↔ IsEligible f p := by
  have hloans : ∀ r l, (r, l, π p) ∈ g.borrowRegion ↔ (r, l, p) ∈ f.borrowRegion :=
    fun r l => h.borrowRegion r l p
  simp only [IsEligible, h.outlives, h.universalRegion, hloans]

variable (hf : f.outlives.Nodup) (hg : g.outlives.Nodup)

include h hf hg in
theorem innerPairs_perm (p : PointIndex) : (f.innerPairs p).Perm (g.innerPairs (π p)) := by
  refine (List.perm_ext_iff_of_nodup (nodup_innerPairs hf p) (nodup_innerPairs hg (π p))).mpr ?_
  rintro ⟨r₁, r₂⟩
  simp only [Facts.mem_innerPairs, h.outlives, h.universalRegion]

/-- What is issued at a point depends on the inner pairs there and on its location. -/
theorem IssuedAt.of_perm {p q : PointIndex} (hperm : (f.innerPairs p).Perm (g.innerPairs q))
    {l : Location} {issues : List Issue} (hat : IssuedAt f body owners p l issues) :
    IssuedAt g body owners q l issues := by
  cases hat with
  | call hcall hpairs => exact .call hcall ⟨hpairs.ascending, hpairs.perm.trans hperm⟩
  | assignment hassignment hgreatest =>
    exact .assignment hassignment
      ⟨hperm.mem_iff.mp hgreatest.mem, fun b hb => hgreatest.le b (hperm.mem_iff.mpr hb)⟩
  | other hcall hassignment => exact .other hcall hassignment

variable (htables : ∀ n place, table'.resolve (π n) = .ok place ↔ table.resolve n = .ok place)

include h hf hg htables in
theorem isIssued_renamed (p : PointIndex) (issues : List Issue) :
    IsIssued g table' body owners (π p, issues) ↔ IsIssued f table body owners (p, issues) := by
  have hperm := innerPairs_perm h hf hg p
  refine exists_congr fun place => ?_
  exact and_congr (htables p place) (and_congr_right fun _ =>
    ⟨fun hat => hat.of_perm hperm.symm, fun hat => hat.of_perm hperm⟩)

include h hf hg htables in
/-- The items that are planned for points are those that are planned under their other names. -/
theorem mem_planned_renamed {plan plan' : List (PointIndex × List Issue)}
    (hpoints : plan.map Prod.fst = eligiblePoints f)
    (hplan : ∀ x ∈ plan, IsIssued f table body owners x)
    (hpoints' : plan'.map Prod.fst <+: eligiblePoints g)
    (hplan' : ∀ x ∈ plan', IsIssued g table' body owners x) {x : PointIndex × Issue}
    (hx : (π x.1, x.2) ∈ planned plan') : x ∈ planned plan := by
  obtain ⟨issues, hmem, hissue⟩ := mem_planned.mp hx
  refine mem_planned.mpr ⟨issues, ?_, hissue⟩
  have heligible : π x.1 ∈ eligiblePoints g := hpoints'.subset (List.mem_map_of_mem hmem)
  exact (mem_plan_iff hpoints hplan).mpr
    ⟨(isEligible_renamed h x.1).mp (mem_eligiblePoints.mp heligible),
      (isIssued_renamed h hf hg htables x.1 issues).mp (hplan' _ hmem)⟩

include h hf hg htables in
/-- A pass that succeeds does so under other names, too. -/
theorem run_done_renamed (hrun : (run f table body owners).2 = none) :
    (run g table' body owners).2 = none := by
  obtain ⟨plan, hpoints, hplan, -⟩ := run_adds hrun
  have hfits := fits_of_run hpoints hplan hrun
  have hitems : (planned plan).Nodup := nodup_planned hf (hpoints ▸ List.prefix_refl _) hplan
  have hends := run_ends g table' body owners []
  rcases hresult : (run g table' body owners).2 with _ | e
  · rfl
  · rw [hresult] at hends
    cases hends with
    | @outside plan' p' rest d hpoints' _ _ hd =>
      -- The point lies in the body under its other name.
      obtain ⟨p, rfl⟩ := π.surjective p'
      have heligible : π p ∈ eligiblePoints g := by
        rw [hpoints']
        simp
      have hmem : p ∈ plan.map Prod.fst := by
        rw [hpoints]
        exact mem_eligiblePoints.mpr ((isEligible_renamed h p).mp (mem_eligiblePoints.mp heligible))
      obtain ⟨⟨p, issues⟩, hx, rfl⟩ := List.mem_map.mp hmem
      obtain ⟨place, hplace, hin, -⟩ := hplan _ hx
      have hlocation : locationOf table' body (π p) = .ok place.location :=
        locationOf_eq_ok_iff.mpr ⟨place, (htables p place).mpr hplace, hin, rfl⟩
      simp only at hd
      rw [hlocation] at hd
      cases hd
    | @tooLarge plan' rest hpoints' hplan' hstops =>
      -- No more loans are issued than under the other names, so all numbers can be written.
      obtain ⟨x, hx, hlarge⟩ := hstops.tooLarge
      have hnext : (startPass g []).next = firstLoan f := firstLoan_renamed h
      rw [hnext] at hx
      have hprefix : plan'.map Prod.fst <+: eligiblePoints g := ⟨rest, hpoints'.symm⟩
      have hitems' : (planned plan').Nodup := nodup_planned hg hprefix hplan'
      have hlength : (planned plan').length ≤ (planned plan).length := by
        have hmap := hitems'.map (π.symm.prodCongr (Equiv.refl Issue)).injective
        rw [← List.length_map (f := π.symm.prodCongr (Equiv.refl Issue))]
        refine (List.subperm_of_subset hmap fun y hy => ?_).length_le
        obtain ⟨z, hz, rfl⟩ := List.mem_map.mp hy
        refine mem_planned_renamed h hf hg htables hpoints hplan hprefix hplan' ?_
        simpa using hz
      obtain ⟨hle, hlt⟩ := bounds_of_mem_numbered hx
      rcases exists_idxOf_or (firstLoan f) hitems x.loan with ⟨a, ha, hloan⟩ | hout
      · have hfits' := hfits ⟨x.loan, a.1, a.2⟩ ((mem_numbered_iff hitems).mpr ⟨ha, hloan⟩)
        simp only at hfits'
        rw [hfits'] at hlarge
        cases hlarge
      · lia

include h hf hg htables in
/-- **Completion does not depend on names.**  If a pass succeeds it does so under other names
of the points, and the same loans are issued for the same reasons, up to the names of these
loans. -/
theorem run_renamed (hrun : (run f table body owners).2 = none) :
    (run g table' body owners).2 = none ∧ ∃ σ : Equiv.Perm Loan,
      (∀ l, l ∉ (run f table body owners).1.issued.loans → σ l = l) ∧
      Renamed σ (run f table body owners).1.issued (run g table' body owners).1.issued ∧
      Facts.Renamed π σ (run f table body owners).1.facts (run g table' body owners).1.facts := by
  have hrun' := run_done_renamed h hf hg htables hrun
  obtain ⟨plan, hpoints, hplan, hadds⟩ := run_adds hrun
  obtain ⟨plan', hpoints', hplan', hadds'⟩ := run_adds hrun'
  have hitems : (planned plan).Nodup := nodup_planned hf (hpoints ▸ List.prefix_refl _) hplan
  have hitems' : (planned plan').Nodup := nodup_planned hg (hpoints' ▸ List.prefix_refl _) hplan'
  have hmem : ∀ a, π.prodCongr (Equiv.refl Issue) a ∈ planned plan' ↔ a ∈ planned plan := by
    intro a
    refine ⟨fun ha => mem_planned_renamed h hf hg htables hpoints hplan
      (hpoints' ▸ List.prefix_refl _) hplan' ha, fun ha => ?_⟩
    obtain ⟨issues, hx, hissue⟩ := mem_planned.mp ha
    obtain ⟨heligible, hissued⟩ := (mem_plan_iff hpoints hplan).mp hx
    refine mem_planned.mpr ⟨issues, (mem_plan_iff hpoints' hplan').mpr ?_, hissue⟩
    exact ⟨(isEligible_renamed h a.1).mpr heligible,
      (isIssued_renamed h hf hg htables a.1 issues).mpr hissued⟩
  -- Loans are numbered in the order of the plans, so two orders give a renaming.
  obtain ⟨σ, hσ, hout⟩ := exists_renumbering (firstLoan f) hitems hitems' hmem
  have hnumbered : ∀ x : Issued, Issued.rename π σ x ∈ numbered (firstLoan f) (planned plan') ↔
      x ∈ numbered (firstLoan f) (planned plan) := by
    intro x
    rw [mem_numbered_iff hitems, mem_numbered_iff hitems']
    refine (and_congr_left fun _ => hmem (x.point, x.issue)).trans (and_congr_right fun hx => ?_)
    have hloan := hσ _ hx
    simp only [Equiv.prodCongr_apply, Prod.map, Equiv.refl_apply] at hloan
    simp only [Issued.rename, Equiv.coe_fn_mk]
    rw [← hloan, σ.injective.eq_iff]
  have hissued : (run f table body owners).1.issued =
      ({} : Completion).withIssued (numbered (firstLoan f) (planned plan)) := hadds.issued
  have hissued' : (run g table' body owners).1.issued =
      ({} : Completion).withIssued (numbered (firstLoan f) (planned plan')) := by
    rw [← firstLoan_renamed h]
    exact hadds'.issued
  have hfacts' : (run g table' body owners).1.facts =
      g.withIssued (numbered (firstLoan f) (planned plan')) := by
    rw [← firstLoan_renamed h]
    exact hadds'.facts
  refine ⟨hrun', σ, fun l hl => ?_, ?_, ?_⟩
  · rw [hissued, mem_loans_withIssued] at hl
    rcases exists_idxOf_or (firstLoan f) hitems l with ⟨a, ha, hloan⟩ | hn
    · exact absurd ⟨⟨l, a.1, a.2⟩, (mem_numbered_iff hitems).mpr ⟨ha, hloan⟩, rfl⟩ hl
    · exact hout l hn
  · rw [hissued, hissued']
    exact withIssued_renamed hnumbered
  · have hlt : ∀ l, f.Mentions l → l < firstLoan f := fun l hl => (isFirstLoan_firstLoan f).lt hl
    rw [hadds.facts, hfacts']
    exact facts_withIssued_renamed hnumbered h hlt
      (fun l hl => hlt l ((mentions_renamed h l).mp hl)) fun l hl => hout l (.inl hl)

end Passes

end BorrowGraph.Completion
