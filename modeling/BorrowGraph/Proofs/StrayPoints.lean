/-
Where completion fails.

An eligible point may lie at no location of the body, since its number was never given out or
since its location is not in the body (`Strays`).  Such a stray point has no plan, and
completion fails there:

* `strays_iff`: this is exactly when the location of a point is not found, and with which
  diagnostic;
* `exists_split`: the eligible points up to the first stray one have a plan, by induction over
  the points;
* `run_stops_at_stray`: a pass fails if and only if some eligible point is stray.  It stops at
  the first one, and what it leaves behind is what completion gives to the points before, under
  the same numbers.

Numbers that are too large to be written are the only other reason to fail, so all numbers up
to the first stray point are assumed to be short enough.
-/
import BorrowGraph.Proofs.CompletionRounds
import BorrowGraph.Proofs.PointHistory
import BorrowGraph.Proofs.Recompletion
import Mathlib.Order.Bounds.Basic

namespace BorrowGraph.Completion

/-! ### Stray points -/

/-- A point lies at no location of the body, and the diagnostic says why: its number was never
given out, or its location is not in the body. -/
inductive Strays (table : PointTable) (body : Body) (p : PointIndex) : Diagnostic → Prop where
  | unissued : p < 0 ∨ table.points.length ≤ p →
      Strays table body p (PointTable.unknownDiagnostic p)
  | outside {place : Point} : table.resolve p = .ok place →
      body.contains place.location = false →
      Strays table body p (outsideDiagnostic place.location)

/-- An eligible point lies at no location of the body. -/
def IsStray (f : Facts) (table : PointTable) (body : Body) (p : PointIndex) : Prop :=
  IsEligible f p ∧ ∃ d, Strays table body p d

/-- An eligible point comes before all stray ones. -/
def IsReached (f : Facts) (table : PointTable) (body : Body) (p : PointIndex) : Prop :=
  IsEligible f p ∧ ∀ q, IsStray f table body q → p < q

section Strays

variable {f : Facts} {table : PointTable} {body : Body} {owners : Owners} {p : PointIndex}
  {d : Diagnostic}

theorem Strays.kind_code (h : Strays table body p d) :
    d.kind = .consistency ∧ d.code = .unknownPoint := by
  cases h with
  | unissued _ => exact ⟨rfl, rfl⟩
  | outside _ _ => exact ⟨rfl, rfl⟩

theorem resolve_eq_error {t : PointTable} {i : Int} (h : t.resolve i = .error d) :
    d = PointTable.unknownDiagnostic i := by
  rw [PointRegister.resolve] at h
  by_cases hi : i < 0
  · rw [if_pos hi] at h
    exact (Except.error.inj h).symm
  · rw [if_neg hi] at h
    rcases hget : t.points[i.toNat]? with _ | place
    · rw [hget] at h
      exact (Except.error.inj h).symm
    · rw [hget] at h
      cases h

/-- A point is stray exactly when its location is not found. -/
theorem strays_iff : Strays table body p d ↔ locationOf table body p = .error d := by
  constructor
  · intro h
    cases h with
    | unissued hp =>
      obtain ⟨d, hd⟩ := (PointRegister.resolve_error_iff _ p).mpr hp
      rw [locationOf, hd, resolve_eq_error hd]
      rfl
    | outside hplace hout =>
      rw [locationOf, hplace]
      simp [hout, bind, Except.bind, throw, throwThe, MonadExceptOf.throw]
  · intro h
    rw [locationOf] at h
    rcases hplace : table.resolve p with e | place
    · rw [hplace] at h
      obtain rfl : e = d := Except.error.inj h
      rw [resolve_eq_error hplace]
      exact .unissued ((PointRegister.resolve_error_iff _ p).mp ⟨e, hplace⟩)
    · rw [hplace] at h
      by_cases hin : body.contains place.location = true
      · simp [hin, bind, Except.bind, pure, Except.pure] at h
      · rw [Bool.not_eq_true] at hin
        simp only [hin, bind, Except.bind, Bool.false_eq_true, if_false] at h
        obtain rfl : outsideDiagnostic place.location = d := Except.error.inj h
        exact .outside hplace hin

/-- A point for which loans are planned is not stray. -/
theorem IsIssued.not_strays {issues : List Issue} (h : IsIssued f table body owners (p, issues)) :
    ¬ Strays table body p d := by
  obtain ⟨place, hplace, hin, -⟩ := h
  rw [strays_iff, locationOf_eq_ok_iff.mpr ⟨place, hplace, hin, rfl⟩]
  exact fun h => nomatch h

end Strays

/-! ### The first stray point -/

section Split

variable {f : Facts} {table : PointTable} {body : Body} {owners : Owners}

/-- Points have a plan up to the first one that is stray. -/
theorem exists_split {points : List PointIndex} (h : ∀ p ∈ points, f.innerPairs p ≠ []) :
    ∃ plan : List (PointIndex × List Issue), (∀ x ∈ plan, IsIssued f table body owners x) ∧
      (points = plan.map Prod.fst ∨
        ∃ p rest d, points = plan.map Prod.fst ++ p :: rest ∧ Strays table body p d) := by
  induction points with
  | nil => exact ⟨[], by simp, .inl rfl⟩
  | cons p points ih =>
    rw [List.forall_mem_cons] at h
    rcases hl : locationOf table body p with d | l
    · exact ⟨[], by simp, .inr ⟨p, points, d, rfl, strays_iff.mpr hl⟩⟩
    · obtain ⟨issues, hissues⟩ : ∃ issues, IsIssued f table body owners (p, issues) :=
        exists_isIssued hl h.1
      obtain ⟨plan, hplan, hpoints⟩ := ih h.2
      refine ⟨(p, issues) :: plan, List.forall_mem_cons.mpr ⟨hissues, hplan⟩, ?_⟩
      rcases hpoints with rfl | ⟨q, rest, d, rfl, hd⟩
      · exact .inl rfl
      · exact .inr ⟨q, rest, d, rfl, hd⟩

variable {plan : List (PointIndex × List Issue)}

/-- The points before a point of the list are smaller, the points behind it are greater. -/
theorem eligiblePoints_split {points rest : List PointIndex} {p : PointIndex}
    (h : eligiblePoints f = points ++ p :: rest) :
    points.Pairwise (· < ·) ∧ (∀ q ∈ points, q < p) ∧ ∀ q ∈ rest, p < q := by
  have hasc := ascending_eligiblePoints f
  rw [h] at hasc
  obtain ⟨hpoints, hrest, hlt⟩ := List.pairwise_append.mp hasc
  exact ⟨hpoints, fun q hq => hlt q hq p List.mem_cons_self, (List.pairwise_cons.mp hrest).1⟩

theorem not_isStray_of_mem (hplan : ∀ x ∈ plan, IsIssued f table body owners x) {q : PointIndex}
    (hq : q ∈ plan.map Prod.fst) : ¬ IsStray f table body q := by
  obtain ⟨⟨q, issues⟩, hx, rfl⟩ := List.mem_map.mp hq
  rintro ⟨-, d, hd⟩
  exact (hplan _ hx).not_strays hd

/-- Where all eligible points have a plan, none is stray and all are reached. -/
theorem isPlan_of_all (hpoints : eligiblePoints f = plan.map Prod.fst)
    (hplan : ∀ x ∈ plan, IsIssued f table body owners x) :
    (∀ p, ¬ IsStray f table body p) ∧ IsPlan f table body owners (IsReached f table body) plan := by
  have hnone : ∀ p, ¬ IsStray f table body p := by
    intro p hp
    have hmem : p ∈ plan.map Prod.fst := hpoints ▸ mem_eligiblePoints.mpr hp.1
    exact not_isStray_of_mem hplan hmem hp
  refine ⟨hnone, ?_, fun p => ?_, hplan⟩
  · exact hpoints ▸ ascending_eligiblePoints f
  · rw [← hpoints, mem_eligiblePoints]
    exact ⟨fun hp => ⟨hp, fun q hq => absurd hq (hnone q)⟩, fun hp => hp.1⟩

/-- Where the eligible points have a plan up to a stray one, this is the first stray one, and
the points before it are those that are reached. -/
theorem isPlan_of_split {p : PointIndex} {rest : List PointIndex} {d : Diagnostic}
    (hpoints : eligiblePoints f = plan.map Prod.fst ++ p :: rest)
    (hplan : ∀ x ∈ plan, IsIssued f table body owners x) (hd : Strays table body p d) :
    IsLeast {q | IsStray f table body q} p ∧
      IsPlan f table body owners (fun q => IsEligible f q ∧ q < p) plan ∧
      IsPlan f table body owners (IsReached f table body) plan := by
  obtain ⟨hasc, hlt, hgt⟩ := eligiblePoints_split hpoints
  have hmem : ∀ q, IsEligible f q ↔ q ∈ plan.map Prod.fst ∨ q = p ∨ q ∈ rest := by
    intro q
    rw [← mem_eligiblePoints, hpoints, List.mem_append, List.mem_cons]
  have hstray : IsStray f table body p := ⟨(hmem p).mpr (.inr (.inl rfl)), d, hd⟩
  have hleast : IsLeast {q | IsStray f table body q} p := by
    refine ⟨hstray, fun q hq => ?_⟩
    -- A stray point is not among the planned ones, so it is this one or one behind it.
    rcases (hmem q).mp hq.1 with hq' | rfl | hq'
    · exact absurd hq (not_isStray_of_mem hplan hq')
    · exact le_refl q
    · exact (hgt q hq').le
  have hbefore : ∀ q, q ∈ plan.map Prod.fst ↔ IsEligible f q ∧ q < p := by
    intro q
    constructor
    · intro hq
      exact ⟨(hmem q).mpr (.inl hq), hlt q hq⟩
    · rintro ⟨hq, hqp⟩
      rcases (hmem q).mp hq with hq' | rfl | hq'
      · exact hq'
      · exact absurd hqp (Int.lt_irrefl q)
      · exact absurd hqp (Int.not_lt.mpr (hgt q hq').le)
  refine ⟨hleast, ⟨hasc, hbefore, hplan⟩, ⟨hasc, fun q => (hbefore q).trans ?_, hplan⟩⟩
  constructor
  · rintro ⟨hq, hqp⟩
    exact ⟨hq, fun q' hq' => lt_of_lt_of_le hqp (hleast.2 hq')⟩
  · rintro ⟨hq, hqp⟩
    exact ⟨hq, hqp p hstray⟩

end Split

/-! ### What is left behind -/

/-- With another table and body the same is planned for the eligible points before a point. -/
def PlansAlike (f : Facts) (owners : Owners) (p : PointIndex) (table : PointTable) (body : Body)
    (table' : PointTable) (body' : Body) : Prop :=
  ∀ q issues, IsEligible f q → q < p → IsIssued f table body owners (q, issues) →
    IsIssued f table' body' owners (q, issues)

/-- Facts come from others by completing exactly the eligible points before a point: all that
is planned for them is added, numbered from the first free number on.  The numbers are those
that a pass gives which succeeds, with another table and body, and which goes on to that point
and beyond. -/
structure IsCompletedBefore (f : Facts) (table : PointTable) (body : Body) (owners : Owners)
    (p : PointIndex) (f' : Facts) : Prop where
  facts : ∃ plan first, IsPlan f table body owners (fun q => IsEligible f q ∧ q < p) plan ∧
    IsFirstLoan f first ∧ f' = f.withIssued (numbered first (planned plan))
  numbers : ∀ table' body' results, PlansAlike f owners p table body table' body' →
    (run f table' body' owners results).2 = none →
    ∀ t, t ∈ f'.borrowRegion ↔
      t ∈ f.borrowRegion ∨ t ∈ (run f table' body' owners results).1.facts.borrowRegion ∧ t.2.2 < p

section Left

variable {f : Facts} {table : PointTable} {body : Body} {owners : Owners}
  {plan : List (PointIndex × List Issue)} {p : PointIndex} {rest : List PointIndex}

/-- A plan for all eligible points goes on from any plan for the first of them. -/
theorem exists_later {whole : List (PointIndex × List Issue)}
    (hpoints : eligiblePoints f = plan.map Prod.fst ++ rest)
    (hplan : ∀ x ∈ plan, IsIssued f table body owners x)
    (hwhole : whole.map Prod.fst = eligiblePoints f)
    (hissued : ∀ x ∈ whole, IsIssued f table body owners x) :
    ∃ later, whole = plan ++ later ∧ later.map Prod.fst = rest := by
  rw [hpoints, List.map_eq_append_iff] at hwhole
  obtain ⟨early, later, rfl, hearly, hlater⟩ := hwhole
  have heq : early = plan :=
    eq_of_isIssued hearly (fun x hx => hissued x (List.mem_append_left _ hx)) hplan
  exact ⟨later, by rw [heq], hlater⟩

theorem point_mem_of_mem_numbered {first : Loan} {x : Issued}
    (hx : x ∈ numbered first (planned plan)) : x.point ∈ plan.map Prod.fst := by
  obtain ⟨issues, hmem, -⟩ := mem_planned.mp (mem_of_mem_numbered hx)
  exact List.mem_map_of_mem hmem

/-- The loans of the first points are those of a pass that succeeds, at these points. -/
theorem mem_withIssued_iff_run {results : List (Loan × Local)}
    (hpoints : eligiblePoints f = plan.map Prod.fst ++ p :: rest)
    (hplan : ∀ x ∈ plan, IsIssued f table body owners x)
    (hrun : (run f table body owners results).2 = none) (t : Region × Loan × PointIndex) :
    t ∈ (f.withIssued (numbered (firstLoan f) (planned plan))).borrowRegion ↔
      t ∈ f.borrowRegion ∨
        t ∈ (run f table body owners results).1.facts.borrowRegion ∧ t.2.2 < p := by
  obtain ⟨whole, hwhole, hissued, hadds⟩ := run_adds hrun
  obtain ⟨later, rfl, hlater⟩ := exists_later hpoints hplan hwhole hissued
  obtain ⟨-, hlt, hgt⟩ := eligiblePoints_split hpoints
  have hplanned : planned (plan ++ later) = planned plan ++ planned later := List.flatMap_append
  rw [hadds.facts, hplanned, numbered_append, Facts.mem_withIssued, Facts.mem_withIssued]
  constructor
  · rintro (⟨x, hx, rfl⟩ | ht)
    · have hbefore : x.point < p := hlt _ (point_mem_of_mem_numbered hx)
      exact .inr ⟨.inl ⟨x, List.mem_append_left _ hx, rfl⟩, hbefore⟩
    · exact .inl ht
  · rintro (ht | ⟨⟨x, hx, rfl⟩ | ht, hbefore⟩)
    · exact .inr ht
    · rcases List.mem_append.mp hx with hx | hx
      · exact .inl ⟨x, hx, rfl⟩
      · -- Later loans are issued at the stray point or behind it.
        have hpoint := point_mem_of_mem_numbered hx
        rw [hlater, List.mem_cons] at hpoint
        have hle : p ≤ x.point := by
          rcases hpoint with hpoint | hpoint
          · exact hpoint.ge
          · exact (hgt _ hpoint).le
        exact absurd hbefore (Int.not_lt.mpr hle)
    · exact .inr ht

/-- What a pass leaves behind that has added exactly what is planned before a point. -/
theorem isCompletedBefore_of_adds {d : Diagnostic} {results : List (Loan × Local)} {s : Pass}
    (hpoints : eligiblePoints f = plan.map Prod.fst ++ p :: rest)
    (hplan : ∀ x ∈ plan, IsIssued f table body owners x) (hd : Strays table body p d)
    (hadds : (startPass f results).Adds (planned plan) s) :
    IsCompletedBefore f table body owners p s.facts := by
  obtain ⟨-, hisplan, -⟩ := isPlan_of_split hpoints hplan hd
  refine ⟨⟨plan, firstLoan f, hisplan, isFirstLoan_firstLoan f, hadds.facts⟩, ?_⟩
  intro table' body' results' halike hrun t
  have hplan' : ∀ x ∈ plan, IsIssued f table' body' owners x := by
    rintro ⟨q, issues⟩ hx
    obtain ⟨heligible, hlt⟩ := (hisplan.points_iff q).mp (List.mem_map_of_mem hx)
    exact halike q issues heligible hlt (hplan _ hx)
  rw [hadds.facts]
  exact mem_withIssued_iff_run hpoints hplan' hrun t

end Left

/-! ### Failing passes -/

/-- **Completion stops at the first stray point, and nowhere else.**  Let all numbers up to
there be short enough to be written.  A pass fails exactly when some eligible point lies at no
location of the body, always with the diagnostic for the first such point.  Then exactly the
points before it are completed. -/
theorem run_stops_at_stray {f : Facts} {table : PointTable} {body : Body} {owners : Owners}
    (hfits : ∀ plan, IsPlan f table body owners (IsReached f table body) plan →
      ∀ x ∈ numbered (firstLoan f) (planned plan), Decimal.fits x.loan = true)
    (results : List (Loan × Local)) :
    ((run f table body owners results).2 ≠ none ↔ ∃ p, IsStray f table body p) ∧
      ∀ e, (run f table body owners results).2 = some e →
        ∃ p d, IsLeast {q | IsStray f table body q} p ∧ Strays table body p d ∧
          e = .diagnostic d ∧ d.kind = .consistency ∧ d.code = .unknownPoint ∧
          IsCompletedBefore f table body owners p (run f table body owners results).1.facts := by
  have hpairs : ∀ p ∈ eligiblePoints f, f.innerPairs p ≠ [] :=
    fun p hp => (mem_eligiblePoints.mp hp).innerPairs_ne_nil
  obtain ⟨plan, hplan, hpoints | ⟨p, rest, d, hpoints, hd⟩⟩ :
      ∃ plan : List (PointIndex × List Issue), (∀ x ∈ plan, IsIssued f table body owners x) ∧
        (eligiblePoints f = plan.map Prod.fst ∨ ∃ p rest d,
          eligiblePoints f = plan.map Prod.fst ++ p :: rest ∧ Strays table body p d) :=
    exists_split hpairs
  · obtain ⟨hnone, hisplan⟩ := isPlan_of_all hpoints hplan
    obtain ⟨hrun, -⟩ := run_of_fits hpoints hplan (hfits plan hisplan) results
    rw [hrun]
    refine ⟨iff_of_false (fun h => h rfl) ?_, fun e he => nomatch he⟩
    rintro ⟨p, hp⟩
    exact hnone p hp
  · obtain ⟨hleast, -, hisplan⟩ := isPlan_of_split hpoints hplan hd
    obtain ⟨hrun, hadds⟩ :=
      run_of_outside hpoints hplan (strays_iff.mp hd) (hfits plan hisplan) results
    refine ⟨iff_of_true (by rw [hrun]; simp) ⟨p, hleast.1⟩, fun e he => ?_⟩
    obtain rfl : .diagnostic d = e := Option.some_inj.mp (hrun.symm.trans he)
    exact ⟨p, d, hleast, hd, rfl, hd.kind_code.1, hd.kind_code.2,
      isCompletedBefore_of_adds hpoints hplan hd hadds⟩

/-- What is planned before the last point, which is the stray one. -/
def strayPlan : List (PointIndex × List Issue) :=
  [(0, [⟨.move 1, 3⟩]), (1, [])]

theorem eligiblePoints_moveFacts :
    eligiblePoints moveFacts = strayPlan.map Prod.fst ++ [2] := by
  cbv

theorem isIssued_strayPlan :
    ∀ x ∈ strayPlan, IsIssued moveFacts strayPoints moveBody moveOwners x := by
  have hmove : IsIssued moveFacts strayPoints moveBody moveOwners (0, [⟨.move 1, 3⟩]) := by
    have hassign : moveBody.IsAssignmentAt ⟨0, 0⟩ :=
      ⟨_, _, le_refl _, rfl, le_refl _, rfl, rfl⟩
    have hpairs : moveFacts.innerPairs 0 = [(1, 2), (1, 3)] := by decide
    exact ⟨⟨⟨0, 0⟩, .mid⟩, rfl, rfl, .assignment hassign ⟨by decide, by simp [hpairs, PairLe]⟩⟩
  have hidle : IsIssued moveFacts strayPoints moveBody moveOwners (1, []) := by
    refine ⟨⟨⟨0, 1⟩, .mid⟩, rfl, rfl, .other ?_ ?_⟩
    · rintro destination ⟨block, t, -, hblock, hindex, -⟩
      obtain rfl := Option.some_inj.mp hblock
      simp at hindex
    · rintro ⟨block, st, -, hblock, -, hst, hkind⟩
      obtain rfl := Option.some_inj.mp hblock
      obtain rfl := Option.some_inj.mp hst
      simp at hkind
  exact List.forall_mem_cons.mpr ⟨hmove, List.forall_mem_singleton.mpr hidle⟩

theorem moveFacts_stop_at_stray :
    (∀ plan, IsPlan moveFacts strayPoints moveBody moveOwners
        (IsReached moveFacts strayPoints moveBody) plan →
      ∀ x ∈ numbered (firstLoan moveFacts) (planned plan), Decimal.fits x.loan = true) ∧
    (run moveFacts strayPoints moveBody moveOwners).2 =
      some (.diagnostic (outsideDiagnostic ⟨5, 0⟩)) ∧
    ∃ p, IsLeast {q | IsStray moveFacts strayPoints moveBody q} p ∧
      Strays strayPoints moveBody p (outsideDiagnostic ⟨5, 0⟩) ∧
      IsCompletedBefore moveFacts strayPoints moveBody moveOwners p
        (run moveFacts strayPoints moveBody moveOwners).1.facts := by
  have hplace : strayPoints.resolve 2 = .ok ⟨⟨5, 0⟩, .mid⟩ := rfl
  have hout : moveBody.contains (⟨⟨5, 0⟩, .mid⟩ : Point).location = false := rfl
  have hd := Strays.outside hplace hout
  have hfits : ∀ plan, IsPlan moveFacts strayPoints moveBody moveOwners
      (IsReached moveFacts strayPoints moveBody) plan →
      ∀ x ∈ numbered (firstLoan moveFacts) (planned plan), Decimal.fits x.loan = true := by
    intro plan hplan
    obtain ⟨-, -, hplan'⟩ := isPlan_of_split eligiblePoints_moveFacts isIssued_strayPlan hd
    rw [hplan.unique hplan']
    exact List.forall_mem_singleton.mpr (by decide)
  obtain ⟨p, d, hleast, hd', he, -, -, hfacts⟩ :=
    (run_stops_at_stray hfits []).2 _ run_strayPoints
  obtain rfl := Failure.diagnostic.inj he
  exact ⟨hfits, run_strayPoints, p, hleast, hd', hfacts⟩

end BorrowGraph.Completion
