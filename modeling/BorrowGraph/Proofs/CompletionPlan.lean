/-
Completion follows a plan.

What completion issues can be read off the facts, the body and the owners, before anything is
issued: for each eligible point, in ascending order, the loans that its location asks for
(`IsPlan`).  There is only one such plan.  A pass works it off point by point:

* `Pass.completeAt_ends`: what can happen at one point.  It is completed as planned, or it lies
  at no location of the body, or a number is too large to be written;
* `Pass.completeAll_ends`, `run_ends`: what can happen in a whole pass, by induction over the
  points.  A pass that stops at a point has completed all points before it;
* `run_follows_plan`: a pass that succeeds has added exactly the planned loans, numbered one by
  one from the first number that is free, and recorded each under its origin.
-/
import BorrowGraph.Proofs.Issuing

namespace BorrowGraph.Completion

/-! ### Plans -/

/-- A point lies at a location of the body, and these are the loans to be issued there. -/
def IsIssued (f : Facts) (table : PointTable) (body : Body) (owners : Owners)
    (x : PointIndex × List Issue) : Prop :=
  ∃ place, table.resolve x.1 = .ok place ∧ body.contains place.location = true ∧
    IssuedAt f body owners x.1 place.location x.2

/-- The loans to be issued at the given points, in ascending order of the points. -/
structure IsPlan (f : Facts) (table : PointTable) (body : Body) (owners : Owners)
    (points : PointIndex → Prop) (plan : List (PointIndex × List Issue)) : Prop where
  ascending : (plan.map Prod.fst).Pairwise (· < ·)
  points_iff : ∀ p, p ∈ plan.map Prod.fst ↔ points p
  issued : ∀ x ∈ plan, IsIssued f table body owners x

/-- The loans of a plan one after the other. -/
def planned (plan : List (PointIndex × List Issue)) : List (PointIndex × Issue) :=
  plan.flatMap fun x => x.2.map fun i => (x.1, i)

section Plan

variable {f : Facts} {table : PointTable} {body : Body} {owners : Owners}

theorem IsIssued.unique {p : PointIndex} {xs ys : List Issue}
    (h : IsIssued f table body owners (p, xs)) (h' : IsIssued f table body owners (p, ys)) :
    xs = ys := by
  obtain ⟨place, hplace, -, hat⟩ := h
  obtain ⟨place', hplace', -, hat'⟩ := h'
  rw [hplace, Except.ok.injEq] at hplace'
  subst hplace'
  exact hat.unique hat'

/-- Plans for the same points in the same order are equal. -/
theorem eq_of_isIssued {plan plan' : List (PointIndex × List Issue)}
    (hpoints : plan.map Prod.fst = plan'.map Prod.fst)
    (h : ∀ x ∈ plan, IsIssued f table body owners x)
    (h' : ∀ x ∈ plan', IsIssued f table body owners x) : plan = plan' := by
  induction plan generalizing plan' with
  | nil =>
    rw [List.map_nil, eq_comm, List.map_eq_nil_iff] at hpoints
    exact hpoints.symm
  | cons x plan ih =>
    rcases plan' with _ | ⟨y, plan'⟩
    · simp at hpoints
    · obtain ⟨p, xs⟩ := x
      obtain ⟨q, ys⟩ := y
      rw [List.map_cons, List.map_cons, List.cons.injEq] at hpoints
      obtain ⟨hpq, hrest⟩ := hpoints
      simp only at hpq
      subst hpq
      have hxy := (h _ List.mem_cons_self).unique (h' _ List.mem_cons_self)
      rw [hxy, ih hrest (fun x hx => h x (List.mem_cons_of_mem _ hx))
        fun x hx => h' x (List.mem_cons_of_mem _ hx)]

/-- There is only one plan. -/
theorem IsPlan.unique {points : PointIndex → Prop} {plan plan' : List (PointIndex × List Issue)}
    (h : IsPlan f table body owners points plan) (h' : IsPlan f table body owners points plan') :
    plan = plan' := by
  refine eq_of_isIssued ?_ h.issued h'.issued
  refine h.ascending.eq_of_mem_iff h'.ascending fun p => ?_
  rw [h.points_iff, h'.points_iff]

end Plan

/-! ### One point -/

theorem locationOf_eq_ok_iff {table : PointTable} {body : Body} {p : PointIndex} {l : Location} :
    locationOf table body p = .ok l ↔
      ∃ place, table.resolve p = .ok place ∧ body.contains place.location = true ∧
        place.location = l := by
  rw [locationOf]
  rcases table.resolve p with d | place
  · simp [bind, Except.bind]
  · by_cases hin : body.contains place.location = true
    · simp [hin, bind, Except.bind, pure, Except.pure]
    · simp [hin, bind, Except.bind, throw, throwThe, MonadExceptOf.throw]

section Steps

variable {f : Facts} {table : PointTable} {body : Body} {owners : Owners}

/-- How a pass over several points can end: with all of them completed, at a point that lies at
no location of the body, with all points before it completed, or at a loan that is planned for
one of the points and whose number is too large. -/
inductive Ends (f : Facts) (table : PointTable) (body : Body) (owners : Owners)
    (points : List PointIndex) (s s' : Pass) : Option Failure → Prop where
  | done {plan : List (PointIndex × List Issue)} : plan.map Prod.fst = points →
      (∀ x ∈ plan, IsIssued f table body owners x) → s.Adds (planned plan) s' →
      Ends f table body owners points s s' none
  | outside {plan : List (PointIndex × List Issue)} {p : PointIndex} {rest : List PointIndex}
      {d : Diagnostic} : points = plan.map Prod.fst ++ p :: rest →
      (∀ x ∈ plan, IsIssued f table body owners x) → s.Adds (planned plan) s' →
      locationOf table body p = .error d →
      Ends f table body owners points s s' (some (.diagnostic d))
  | tooLarge {plan : List (PointIndex × List Issue)} {rest : List PointIndex} :
      points = plan.map Prod.fst ++ rest → (∀ x ∈ plan, IsIssued f table body owners x) →
      s.Stops (planned plan) s' →
      Ends f table body owners points s s' (some (.fault .tooLargeToWrite))

/-- A pass goes on where it has completed the points before. -/
theorem Ends.append {points points' : List PointIndex} {s s₁ s' : Pass} {e : Option Failure}
    (h : Ends f table body owners points s s₁ none)
    (h' : Ends f table body owners points' s₁ s' e) :
    Ends f table body owners (points ++ points') s s' e := by
  obtain ⟨plan, hpoints, hplan, hadds⟩ : ∃ plan, plan.map Prod.fst = points ∧
      (∀ x ∈ plan, IsIssued f table body owners x) ∧ s.Adds (planned plan) s₁ := by
    cases h with
    | done hpoints hplan hadds => exact ⟨_, hpoints, hplan, hadds⟩
  have hboth : ∀ plan', (∀ x ∈ plan', IsIssued f table body owners x) →
      ∀ x ∈ plan ++ plan', IsIssued f table body owners x := by
    intro plan' hplan' x hx
    rcases List.mem_append.mp hx with hx | hx
    · exact hplan x hx
    · exact hplan' x hx
  have hplanned : ∀ plan', planned (plan ++ plan') = planned plan ++ planned plan' :=
    fun plan' => List.flatMap_append
  cases h' with
  | @done plan' hpoints' hplan' hadds' =>
    refine .done ?_ (hboth plan' hplan') ?_
    · rw [List.map_append, hpoints, hpoints']
    · rw [hplanned]
      exact hadds.trans hadds'
  | @outside plan' p rest d hpoints' hplan' hadds' hd =>
    have hpoints'' : points ++ points' = (plan ++ plan').map Prod.fst ++ p :: rest := by
      rw [List.map_append, hpoints, hpoints', List.append_assoc]
    refine .outside hpoints'' (hboth plan' hplan') ?_ hd
    rw [hplanned]
    exact hadds.trans hadds'
  | @tooLarge plan' rest hpoints' hplan' hstops' =>
    have hpoints'' : points ++ points' = (plan ++ plan').map Prod.fst ++ rest := by
      rw [List.map_append, hpoints, hpoints', List.append_assoc]
    refine .tooLarge hpoints'' (hboth plan' hplan') ?_
    rw [hplanned]
    exact hadds.stops hstops'

/-- A pass that has stopped does not look at further points. -/
theorem Ends.stop {points points' : List PointIndex} {s s' : Pass} {e : Failure}
    (h : Ends f table body owners points s s' (some e)) :
    Ends f table body owners (points ++ points') s s' (some e) := by
  cases h with
  | @outside plan p rest d hpoints hplan hadds hd =>
    have hpoints' : points ++ points' = plan.map Prod.fst ++ p :: (rest ++ points') := by
      rw [hpoints, List.append_assoc, List.cons_append]
    exact .outside hpoints' hplan hadds hd
  | @tooLarge plan rest hpoints hplan hstops =>
    have hpoints' : points ++ points' = plan.map Prod.fst ++ (rest ++ points') := by
      rw [hpoints, List.append_assoc]
    exact .tooLarge hpoints' hplan hstops

/-- At a point that lies at a location of the body there is something planned, be it nothing. -/
theorem exists_isIssued {p : PointIndex} {l : Location} (hl : locationOf table body p = .ok l)
    (hp : f.innerPairs p ≠ []) : ∃ issues, IsIssued f table body owners (p, issues) := by
  obtain ⟨place, hplace, hin, -⟩ := locationOf_eq_ok_iff.mp hl
  obtain ⟨issues, -, hat⟩ : ∃ issues,
      issuesAt body owners place.location (f.outlivesAt p) = .ok issues ∧
        IssuedAt f body owners p place.location issues := issuesAt_eq_ok hin hp
  exact ⟨issues, place, hplace, hin, hat⟩

/-- A point for which loans are planned is completed as planned, or a number is too large. -/
theorem Pass.completeAt_cases {s : Pass} (hs : s.IsFresh) {p : PointIndex} {issues : List Issue}
    (hp : f.innerPairs p ≠ []) (h : IsIssued f table body owners (p, issues)) :
    (∃ s', s.completeAt table body owners p (f.outlivesAt p) = (s', none) ∧
        s.Adds (issues.map fun i => (p, i)) s') ∨
      ∃ s', s.completeAt table body owners p (f.outlivesAt p) =
          (s', some (.fault .tooLargeToWrite)) ∧ s.Stops (issues.map fun i => (p, i)) s' := by
  obtain ⟨place, hplace, hin, hat⟩ := h
  have hl : locationOf table body p = .ok place.location :=
    locationOf_eq_ok_iff.mpr ⟨place, hplace, hin, rfl⟩
  obtain ⟨found, hfound, hat'⟩ : ∃ issues,
      issuesAt body owners place.location (f.outlivesAt p) = .ok issues ∧
        IssuedAt f body owners p place.location issues := issuesAt_eq_ok hin hp
  obtain rfl := hat.unique hat'
  -- Whether the call is noted in the log or not, nothing is added by it.
  obtain ⟨s₀, hs₀⟩ :
      ∃ s₀, ((callEntry body place.location (f.outlivesAt p)).map s.note).getD s = s₀ :=
    ⟨_, rfl⟩
  have hnote : s.Adds [] s₀ := by
    rw [← hs₀]
    rcases callEntry body place.location (f.outlivesAt p) with _ | message
    · exact Adds.refl s
    · exact (Adds.refl s).log _
  rw [completeAt, hl]
  simp only [hfound, hs₀]
  rcases issueAll_cases (hnote.isFresh hs) with ⟨s', hall, hadds⟩ | ⟨s', hall, hstops⟩
  · rw [hall]
    exact .inl ⟨s', rfl, hnote.trans hadds⟩
  · rw [hall]
    exact .inr ⟨s', rfl, hnote.stops hstops⟩

/-- What can happen at one point. -/
theorem Pass.completeAt_ends {s : Pass} (hs : s.IsFresh) {p : PointIndex}
    (hp : f.innerPairs p ≠ []) :
    Ends f table body owners [p] s (s.completeAt table body owners p (f.outlivesAt p)).1
      (s.completeAt table body owners p (f.outlivesAt p)).2 := by
  rcases hl : locationOf table body p with d | l
  · rw [completeAt, hl]
    have hpoints : [p] = ([] : List (PointIndex × List Issue)).map Prod.fst ++ [p] := rfl
    exact .outside hpoints (by simp) (Adds.refl s) hl
  · obtain ⟨issues, hissues⟩ : ∃ issues, IsIssued f table body owners (p, issues) :=
      exists_isIssued hl hp
    have hplan : ∀ x ∈ [(p, issues)], IsIssued f table body owners x := by
      intro x hx
      rwa [List.mem_singleton.mp hx]
    have hplanned : planned [(p, issues)] = issues.map fun i => (p, i) :=
      List.flatMap_singleton _ _
    rcases completeAt_cases hs hp hissues with ⟨s', hat, hadds⟩ | ⟨s', hat, hstops⟩
    · rw [hat]
      have hpoints : [(p, issues)].map Prod.fst = [p] := rfl
      refine .done hpoints hplan ?_
      rwa [hplanned]
    · rw [hat]
      have hpoints : [p] = [(p, issues)].map Prod.fst ++ [] := rfl
      refine .tooLarge hpoints hplan ?_
      rwa [hplanned]

/-! ### A whole pass -/

/-- What can happen on the way through several points. -/
theorem Pass.completeAll_ends {points : List PointIndex} :
    ∀ {s : Pass}, s.IsFresh → (∀ p ∈ points, f.innerPairs p ≠ []) →
      Ends f table body owners points s
        (s.completeAll table body owners (points.map fun p => (p, f.outlivesAt p))).1
        (s.completeAll table body owners (points.map fun p => (p, f.outlivesAt p))).2 := by
  induction points with
  | nil =>
    intro s _ _
    rw [List.map_nil, completeAll]
    have hpoints : ([] : List (PointIndex × List Issue)).map Prod.fst = [] := rfl
    exact .done hpoints (by simp) (Adds.refl s)
  | cons p points ih =>
    intro s hs hp
    have hfirst : Ends f table body owners [p] s _ _ :=
      completeAt_ends hs (hp p List.mem_cons_self)
    rw [List.map_cons, completeAll, ← List.singleton_append]
    rcases hat : s.completeAt table body owners p (f.outlivesAt p) with ⟨s₁, _ | e⟩
    · rw [hat] at hfirst
      have hs₁ : s₁.IsFresh := by
        cases hfirst with
        | done _ _ hadds => exact hadds.isFresh hs
      exact hfirst.append (ih hs₁ fun q hq => hp q (List.mem_cons_of_mem _ hq))
    · rw [hat] at hfirst
      exact hfirst.stop

/-- A pass in which all numbers can be written completes the planned points and goes on. -/
theorem Pass.completeAll_of_fits {plan : List (PointIndex × List Issue)}
    (left : List PointIndex) (hpairs : ∀ x ∈ plan, f.innerPairs x.1 ≠ [])
    (hplan : ∀ x ∈ plan, IsIssued f table body owners x) :
    ∀ {s : Pass}, s.IsFresh →
      (∀ x ∈ numbered s.next (planned plan), Decimal.fits x.loan = true) →
      ∃ s', s.Adds (planned plan) s' ∧
        s.completeAll table body owners
            ((plan.map Prod.fst ++ left).map fun p => (p, f.outlivesAt p)) =
          s'.completeAll table body owners (left.map fun p => (p, f.outlivesAt p)) := by
  induction plan with
  | nil =>
    intro s _ _
    exact ⟨s, Adds.refl s, rfl⟩
  | cons x plan ih =>
    obtain ⟨p, issues⟩ := x
    intro s hs hfits
    have hplanned : planned ((p, issues) :: plan) =
        (issues.map fun i => (p, i)) ++ planned plan := List.flatMap_cons
    rw [hplanned, numbered_append] at hfits
    rw [List.forall_mem_cons] at hpairs hplan
    rcases completeAt_cases hs hpairs.1 hplan.1 with ⟨s₁, hat, hadds⟩ | ⟨s₁, hat, hstops⟩
    · rw [← hadds.next] at hfits
      obtain ⟨s', hadds', hall⟩ := ih hpairs.2 hplan.2 (hadds.isFresh hs) fun x hx =>
        hfits x (List.mem_append_right _ hx)
      refine ⟨s', ?_, ?_⟩
      · rw [hplanned]
        exact hadds.trans hadds'
      · rw [List.map_cons, List.cons_append, List.map_cons, completeAll, hat]
        exact hall
    · obtain ⟨y, hy, hlarge⟩ := hstops.tooLarge
      rw [hfits y (List.mem_append_left _ hy)] at hlarge
      exact absurd hlarge (by decide)

end Steps

/-- A pass before anything is issued. -/
def startPass (f : Facts) (results : List (Loan × Local)) : Pass :=
  ⟨f, { callResults := results }, firstLoan f, []⟩

theorem isFresh_startPass (f : Facts) (results : List (Loan × Local)) :
    (startPass f results).IsFresh := by
  rintro ⟨r, l, p⟩ ht
  exact (isFirstLoan_firstLoan f).lt (.inl ⟨r, p, ht⟩)

/-- What can happen in a pass over all eligible points. -/
theorem run_ends (f : Facts) (table : PointTable) (body : Body) (owners : Owners)
    (results : List (Loan × Local)) :
    Ends f table body owners (eligiblePoints f) (startPass f results)
      (run f table body owners results).1 (run f table body owners results).2 := by
  have hpairs : ∀ p ∈ eligiblePoints f, f.innerPairs p ≠ [] :=
    fun p hp => (mem_eligiblePoints.mp hp).innerPairs_ne_nil
  have hends : Ends f table body owners (eligiblePoints f) (startPass f results) _ _ :=
    Pass.completeAll_ends (isFresh_startPass f results) hpairs
  rw [← eligible_eq] at hends
  rw [run]
  rcases hall : (startPass f results).completeAll table body owners (eligible f) with
    ⟨s, _ | e⟩
  · rw [hall] at hends
    rw [startPass] at hall
    rw [hall]
    cases hends with
    | done hpoints hplan hadds => exact .done hpoints hplan (hadds.log _)
  · rw [hall] at hends
    rw [startPass] at hall
    rw [hall]
    exact hends

section Forward

variable {f : Facts} {table : PointTable} {body : Body} {owners : Owners}
  {plan : List (PointIndex × List Issue)}

/-- Planned points are eligible, so there is something to complete at each of them. -/
theorem innerPairs_of_planned {left : List PointIndex}
    (hpoints : eligiblePoints f = plan.map Prod.fst ++ left) :
    ∀ x ∈ plan, f.innerPairs x.1 ≠ [] := by
  intro x hx
  have hmem : x.1 ∈ eligiblePoints f := by
    rw [hpoints]
    exact List.mem_append_left _ (List.mem_map_of_mem hx)
  exact (mem_eligiblePoints.mp hmem).innerPairs_ne_nil

theorem completeAll_eligible {left : List PointIndex}
    (hpoints : eligiblePoints f = plan.map Prod.fst ++ left)
    (hplan : ∀ x ∈ plan, IsIssued f table body owners x)
    (hfits : ∀ x ∈ numbered (firstLoan f) (planned plan), Decimal.fits x.loan = true)
    (results : List (Loan × Local)) :
    ∃ s', (startPass f results).Adds (planned plan) s' ∧
      (startPass f results).completeAll table body owners (eligible f) =
        s'.completeAll table body owners (left.map fun p => (p, f.outlivesAt p)) := by
  rw [eligible_eq, hpoints]
  exact Pass.completeAll_of_fits left (innerPairs_of_planned hpoints) hplan
    (isFresh_startPass f results) hfits

/-- A pass completes the planned points, if these are all eligible points and all numbers can be
written. -/
theorem run_of_fits (hpoints : eligiblePoints f = plan.map Prod.fst)
    (hplan : ∀ x ∈ plan, IsIssued f table body owners x)
    (hfits : ∀ x ∈ numbered (firstLoan f) (planned plan), Decimal.fits x.loan = true)
    (results : List (Loan × Local)) :
    (run f table body owners results).2 = none ∧
      (startPass f results).Adds (planned plan) (run f table body owners results).1 := by
  rw [← List.append_nil (plan.map Prod.fst)] at hpoints
  obtain ⟨s', hadds, hall⟩ := completeAll_eligible hpoints hplan hfits results
  rw [List.map_nil, Pass.completeAll, startPass] at hall
  rw [run, hall]
  exact ⟨rfl, hadds.log _⟩

/-- A pass stops at a point outside the body after the planned points, if all numbers can be
written. -/
theorem run_of_outside {p : PointIndex} {rest : List PointIndex} {d : Diagnostic}
    (hpoints : eligiblePoints f = plan.map Prod.fst ++ p :: rest)
    (hplan : ∀ x ∈ plan, IsIssued f table body owners x)
    (hd : locationOf table body p = .error d)
    (hfits : ∀ x ∈ numbered (firstLoan f) (planned plan), Decimal.fits x.loan = true)
    (results : List (Loan × Local)) :
    (run f table body owners results).2 = some (.diagnostic d) ∧
      (startPass f results).Adds (planned plan) (run f table body owners results).1 := by
  obtain ⟨s', hadds, hall⟩ := completeAll_eligible hpoints hplan hfits results
  rw [List.map_cons, Pass.completeAll, Pass.completeAt, hd, startPass] at hall
  rw [run, hall]
  exact ⟨rfl, hadds⟩

end Forward

/-! ### The results of calls -/

/-- Loans under different numbers are different keys. -/
theorem nodup_results (first : Loan) (items : List (PointIndex × Issue)) :
    (((numbered first items).filterMap Issued.result?).map Prod.fst).Nodup := by
  have hlt : ((numbered first items).filterMap Issued.result?).Pairwise fun x y => x.1 < y.1 := by
    refine (ascending_numbered first items).filterMap _ ?_
    rintro ⟨loan, p, ⟨origin, region⟩⟩ ⟨loan', p', ⟨origin', region'⟩⟩ hlt x hx y hy
    cases origin with
    | result target =>
      cases origin' with
      | result target' =>
        simp only [Issued.result?, Option.some_inj] at hx hy
        rw [← hx, ← hy]
        exact hlt
      | argument _ => simp [Issued.result?] at hy
      | move _ => simp [Issued.result?] at hy
    | argument _ => simp [Issued.result?] at hx
    | move _ => simp [Issued.result?] at hx
  refine (List.pairwise_map.mpr (hlt.imp fun h => ?_))
  exact ne_of_lt h

theorem callResults_withIssued (first : Loan) (items : List (PointIndex × Issue)) :
    (({} : Completion).withIssued (numbered first items)).callResults =
      (numbered first items).filterMap Issued.result? :=
  Assoc.foldl_put (by simpa using nodup_results first items)

/-! ### The effect of a pass -/

/-- **Completion follows its plan.**  A pass that succeeds creates exactly the planned loans,
none of which was there before, under consecutive numbers from the first free one on; all other
facts stay as they are.  The loans are recorded by their origin in the order of issue. -/
theorem run_follows_plan {f : Facts} {table : PointTable} {body : Body} {owners : Owners}
    {results : List (Loan × Local)} (h : (run f table body owners results).2 = none) :
    ∃ plan first, IsPlan f table body owners (IsEligible f) plan ∧
      (∀ plan', IsPlan f table body owners (IsEligible f) plan' → plan' = plan) ∧
      IsFirstLoan f first ∧
      (run f table body owners results).1.facts =
        f.withIssued (numbered first (planned plan)) ∧
      (∀ x ∈ numbered first (planned plan), x.tuple ∉ f.borrowRegion) ∧
      (run f table body owners results).1.issued.referenceMoves =
        (numbered first (planned plan)).filterMap Issued.move? ∧
      (run f table body owners results).1.issued.argumentMoves =
        (numbered first (planned plan)).filterMap Issued.argument? ∧
      (results = [] → (run f table body owners results).1.issued.callResults =
        (numbered first (planned plan)).filterMap Issued.result?) := by
  have hends := run_ends f table body owners results
  rw [h] at hends
  cases hends with
  | @done plan hpoints hplan hadds =>
    have hisplan : IsPlan f table body owners (IsEligible f) plan :=
      { ascending := by rw [hpoints]; exact ascending_eligiblePoints f
        points_iff := fun p => by rw [hpoints]; exact mem_eligiblePoints
        issued := hplan }
    have hfirst := isFirstLoan_firstLoan f
    refine ⟨plan, firstLoan f, hisplan, fun plan' h' => h'.unique hisplan, hfirst, hadds.facts,
      ?_, ?_, ?_, ?_⟩
    · intro x hx hmem
      exact not_mentions_of_mem_numbered hfirst hx (.inl ⟨_, _, hmem⟩)
    · rw [hadds.issued]
      rfl
    · rw [hadds.issued]
      rfl
    · rintro rfl
      rw [hadds.issued]
      exact callResults_withIssued _ _

/-- A move at point 0, nothing to issue at point 1 and a call at point 2, next to a universal
region and a loan that only occurs where it is killed. -/
def moveFacts : Facts :=
  { outlives := [(6, 7, 2), (1, 2, 0), (4, 5, 1), (0, 8, 2), (1, 3, 0)]
    universalRegion := [0]
    borrowRegion := [(5, 3, 7)]
    killed := [(10, 7)] }

def moveBody : Body :=
  { blocks := [⟨0, [{ kind := .assign }, { kind := .storageLive }],
      some { kind := .call, destination := some ⟨2, [".0"]⟩ }⟩] }

def movePoints : PointTable :=
  (PointTable.ofPoints [⟨⟨0, 0⟩, .mid⟩, ⟨⟨0, 1⟩, .mid⟩, ⟨⟨0, 2⟩, .mid⟩]).freeze

def moveOwners : Owners :=
  ⟨[(2, 9)]⟩

theorem eligible_moveFacts :
    eligible moveFacts = [(0, [(1, 2), (1, 3)]), (1, [(4, 5)]), (2, [(6, 7)])] := by
  cbv

theorem run_moveFacts : (run moveFacts movePoints moveBody moveOwners).2 = none := by
  rw [run, eligible_moveFacts]
  decide

theorem moveFacts_follow_plan :
    (run moveFacts movePoints moveBody moveOwners).2 = none ∧
      ∃ plan first, IsPlan moveFacts movePoints moveBody moveOwners (IsEligible moveFacts) plan ∧
        IsFirstLoan moveFacts first ∧
        (run moveFacts movePoints moveBody moveOwners).1.facts =
          moveFacts.withIssued (numbered first (planned plan)) ∧
        (run moveFacts movePoints moveBody moveOwners).1.issued.callResults =
          (numbered first (planned plan)).filterMap Issued.result? := by
  obtain ⟨plan, first, hplan, -, hfirst, hfacts, -, -, -, hresults⟩ :=
    run_follows_plan run_moveFacts
  exact ⟨run_moveFacts, plan, first, hplan, hfirst, hfacts, hresults rfl⟩

end BorrowGraph.Completion
