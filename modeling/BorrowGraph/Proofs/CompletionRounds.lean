/-
Loans over several rounds of completion.

Facts may be completed again and again, with further facts inserted between the rounds, by
rounds that succeed or fail on the way.  The first number of a round is found anew from the
facts, and the results of calls are recorded in one list for all rounds.  Still no loan is
issued twice:

* `run_work`: a pass, be it that it fails, has issued the beginning of what is planned for the
  first eligible points;
* `IsWork.first_at`: at each point the loan of the first planned issue comes first, so a loan
  for the result of a call can be told from those for its arguments (`IsWork.result_iff`);
* `Round.adds_iff`: the tuples that a round adds are those of the loans it has issued, under
  numbers that no fact mentions;
* `Books.IsSound`: each recorded loan is created by a fact.  A round keeps this
  (`Round.isSound_after`), so its entries never meet those of an earlier one
  (`Round.results_after`);
* `rounds_loans`: what this means for a run of any number of rounds.
-/
import BorrowGraph.Proofs.CompletionNames

namespace BorrowGraph.Completion

/-! ### The work of a pass -/

/-- What is planned for the first eligible points, and how much of it was issued. -/
structure IsWork (f : Facts) (table : PointTable) (body : Body) (owners : Owners)
    (plan : List (PointIndex × List Issue)) (items : List (PointIndex × Issue)) : Prop where
  points : plan.map Prod.fst <+: eligiblePoints f
  issued : ∀ x ∈ plan, IsIssued f table body owners x
  started : items <+: planned plan

theorem run_work (f : Facts) (table : PointTable) (body : Body) (owners : Owners)
    (results : List (Loan × Local)) :
    ∃ plan items, IsWork f table body owners plan items ∧
      (startPass f results).Grows items (run f table body owners results).1 := by
  have hends := run_ends f table body owners results
  have hbegin : ∀ {plan : List (PointIndex × List Issue)} {rest : List PointIndex},
      eligiblePoints f = plan.map Prod.fst ++ rest → plan.map Prod.fst <+: eligiblePoints f := by
    intro plan rest h
    rw [h]
    exact List.prefix_append _ _
  rcases hrun : run f table body owners results with ⟨s, e⟩
  rw [hrun] at hends
  cases hends with
  | @done plan hpoints hplan hadds =>
    have hpoints' : eligiblePoints f = plan.map Prod.fst ++ [] := by
      rw [hpoints, List.append_nil]
    exact ⟨plan, planned plan, ⟨hbegin hpoints', hplan, List.prefix_refl _⟩, hadds.toGrows⟩
  | @outside plan p rest d hpoints hplan hadds hd =>
    exact ⟨plan, planned plan, ⟨hbegin hpoints, hplan, List.prefix_refl _⟩, hadds.toGrows⟩
  | @tooLarge plan rest hpoints hplan hstops =>
    obtain ⟨items, hitems, hgrows⟩ := hstops.added
    exact ⟨plan, items, ⟨hbegin hpoints, hplan, hitems⟩, hgrows⟩

/-- Of loans under consecutive numbers, the first ones are those with small numbers. -/
theorem mem_numbered_begin {first : Loan} {xs ys : List (PointIndex × Issue)} (h : xs <+: ys)
    {x : Issued} :
    x ∈ numbered first xs ↔ x ∈ numbered first ys ∧ x.loan < first + xs.length := by
  obtain ⟨rest, rfl⟩ := h
  rw [numbered_append, List.mem_append]
  constructor
  · intro hx
    exact ⟨.inl hx, (bounds_of_mem_numbered hx).2⟩
  · rintro ⟨hx | hx, hlt⟩
    · exact hx
    · exact absurd hlt (Int.not_lt.mpr (bounds_of_mem_numbered hx).1)

theorem eq_of_loan_eq {first : Loan} {items : List (PointIndex × Issue)} {x y : Issued}
    (hx : x ∈ numbered first items) (hy : y ∈ numbered first items) (h : x.loan = y.loan) :
    x = y := by
  have hmem : x ∈ (numbered first items).filter fun z => z.loan = y.loan :=
    List.mem_filter.mpr ⟨hx, decide_eq_true h⟩
  rw [filter_eq_singleton (ascending_numbered first items) hy] at hmem
  exact List.mem_singleton.mp hmem

theorem mem_of_mem_numbered {first : Loan} {items : List (PointIndex × Issue)} {x : Issued}
    (h : x ∈ numbered first items) : (x.point, x.issue) ∈ items := by
  induction items generalizing first with
  | nil => cases h
  | cons y items ih =>
    obtain ⟨p, i⟩ := y
    rcases List.mem_cons.mp h with rfl | h
    · exact List.mem_cons_self
    · exact List.mem_cons_of_mem _ (ih h)

theorem result?_eq_some {x : Issued} {l : Loan} {target : Local} :
    x.result? = some (l, target) ↔ x.loan = l ∧ x.issue.origin = .result target := by
  obtain ⟨loan, p, ⟨origin, region⟩⟩ := x
  cases origin with
  | result t => simp [Issued.result?]
  | argument second => simp [Issued.result?]
  | move first => simp [Issued.result?]

namespace IssuedAt

variable {f : Facts} {body : Body} {owners : Owners} {p : PointIndex} {l : Location}
  {issues : List Issue}

/-- At a call that puts its result into a local with a region, the loan for the result comes
first. -/
theorem of_call (h : IssuedAt f body owners p l issues) {destination : Place} {r : Region}
    (hcall : body.IsCallAt l (some destination)) (hr : owners.regionOf destination.base = some r) :
    ∃ arguments, issues = ⟨.result destination.base, r⟩ :: arguments := by
  cases h with
  | call hcall' hpairs =>
    rw [← hcall.unique hcall']
    simp [hr]
  | assignment hassign => exact absurd hassign hcall.not_isAssignmentAt
  | other hother => exact absurd hcall (hother _)

/-- Only a call has a loan for its result, and this is the first one. -/
theorem of_result (h : IssuedAt f body owners p l issues) {i : Issue} {target : Local}
    (hi : i ∈ issues) (horigin : i.origin = .result target) :
    ∃ destination arguments, body.IsCallAt l (some destination) ∧ destination.base = target ∧
      owners.regionOf target = some i.region ∧ issues = i :: arguments ∧ i ∉ arguments := by
  cases h with
  | @call destination pairs hcall hpairs =>
    -- A loan for an argument has another origin.
    have hargument : i ∉ pairs.map fun a => (⟨.argument a.2, a.1⟩ : Issue) := by
      intro hmem
      obtain ⟨a, -, rfl⟩ := List.mem_map.mp hmem
      cases horigin
    have hresult := (List.mem_append.mp hi).resolve_right hargument
    obtain ⟨place, hplace, hresult⟩ := List.mem_flatMap.mp hresult
    obtain ⟨r, hr, rfl⟩ := List.mem_map.mp hresult
    rw [Option.mem_toList] at hplace hr
    subst hplace
    obtain rfl : place.base = target := Origin.result.inj horigin
    exact ⟨place, _, hcall, rfl, hr, by simp [hr], hargument⟩
  | assignment hassign hgreatest =>
    rw [List.mem_singleton.mp hi] at horigin
    cases horigin
  | other => cases hi

end IssuedAt

namespace IsWork

variable {f : Facts} {table : PointTable} {body : Body} {owners : Owners}
  {plan : List (PointIndex × List Issue)} {items : List (PointIndex × Issue)} {first : Loan}

theorem nodup (h : IsWork f table body owners plan items) : (plan.map Prod.fst).Nodup :=
  ((ascending_eligiblePoints f).sublist h.points.sublist).nodup

theorem exists_issues (h : IsWork f table body owners plan items) {x : Issued}
    (hx : x ∈ numbered first items) :
    ∃ issues, (x.point, issues) ∈ plan ∧ x.issue ∈ issues :=
  mem_planned.mp (h.started.subset (mem_of_mem_numbered hx))

/-- Of the loans that were issued at a point, the one for the first issue planned there has the
smallest number. -/
theorem first_at (h : IsWork f table body owners plan items) (first : Loan) {p : PointIndex}
    {i : Issue} {issues : List Issue} (hp : (p, i :: issues) ∈ plan) :
    ∃ n, ∀ x ∈ numbered first items, x.point = p →
      ⟨n, p, i⟩ ∈ numbered first items ∧ (x = ⟨n, p, i⟩ ∨ x.issue ∈ issues ∧ n < x.loan) := by
  obtain ⟨before, rest, rfl⟩ := List.append_of_mem hp
  have hnodup := h.nodup
  rw [List.map_append, List.map_cons, List.nodup_append, List.nodup_cons] at hnodup
  obtain ⟨-, ⟨hrest, -⟩, hbefore⟩ := hnodup
  have hplanned : planned (before ++ (p, i :: issues) :: rest) =
      planned before ++ (p, i) :: (issues.map (fun j => (p, j)) ++ planned rest) := by
    simp [planned]
  have hsplit : numbered first (planned (before ++ (p, i :: issues) :: rest)) =
      numbered first (planned before) ++ ⟨first + (planned before).length, p, i⟩ ::
        numbered (first + (planned before).length + 1)
          (issues.map (fun j => (p, j)) ++ planned rest) := by
    rw [hplanned, numbered_append, numbered]
  refine ⟨first + (planned before).length, fun x hx hxp => ?_⟩
  obtain ⟨hmem, hlt⟩ := (mem_numbered_begin h.started).mp hx
  have hat : x = ⟨first + (planned before).length, p, i⟩ ∨
      x.issue ∈ issues ∧ first + (planned before).length < x.loan := by
    rw [hsplit, List.mem_append, List.mem_cons] at hmem
    rcases hmem with hmem | hmem | hmem
    · -- What was issued before lies at other points.
      obtain ⟨issues', hmem', -⟩ := mem_planned.mp (mem_of_mem_numbered hmem)
      exact absurd hxp (hbefore _ (List.mem_map_of_mem hmem') p List.mem_cons_self)
    · exact .inl hmem
    · have hle := (bounds_of_mem_numbered hmem).1
      refine .inr ⟨?_, Int.add_one_le_iff.mp hle⟩
      rcases List.mem_append.mp (mem_of_mem_numbered hmem) with hmem | hmem
      · obtain ⟨j, hj, heq⟩ := List.mem_map.mp hmem
        exact (Prod.mk.inj heq).2 ▸ hj
      · obtain ⟨issues', hmem', -⟩ := mem_planned.mp hmem
        exact absurd (List.mem_map_of_mem hmem') (hxp ▸ hrest)
  refine ⟨(mem_numbered_begin h.started).mpr ⟨?_, ?_⟩, hat⟩
  · rw [hsplit]
    exact List.mem_append_right _ List.mem_cons_self
  · rcases hat with rfl | ⟨-, hgreater⟩
    · exact hlt
    · exact hgreater.trans hlt

/-- The loans for results are those that come first at a call that puts its result into a local
with a region. -/
theorem result_iff (h : IsWork f table body owners plan items) {l : Loan} {target : Local} :
    (l, target) ∈ (numbered first items).filterMap Issued.result? ↔
      ∃ x ∈ numbered first items, x.loan = l ∧
        (∃ place destination, table.resolve x.point = .ok place ∧
          body.IsCallAt place.location (some destination) ∧ destination.base = target ∧
          owners.regionOf target = some x.issue.region) ∧
        ∀ y ∈ numbered first items, y.point = x.point → l ≤ y.loan := by
  simp only [List.mem_filterMap, result?_eq_some]
  constructor
  · rintro ⟨x, hx, rfl, horigin⟩
    obtain ⟨issues, hmem, hissue⟩ := h.exists_issues hx
    obtain ⟨place, hplace, -, hat⟩ := h.issued _ hmem
    obtain ⟨destination, arguments, hcall, hbase, hregion, rfl, hnot⟩ :=
      hat.of_result hissue horigin
    refine ⟨x, hx, rfl, ⟨place, destination, hplace, hcall, hbase, hregion⟩, fun y hy hyx => ?_⟩
    obtain ⟨n, hn⟩ := h.first_at first hmem
    -- The loan is not for an argument, so it is the first one at its point.
    have hfirst : x.loan = n := by
      rcases (hn x hx rfl).2 with hxn | ⟨hargument, -⟩
      · rw [hxn]
      · exact absurd hargument hnot
    rcases (hn y hy hyx).2 with rfl | ⟨-, hgreater⟩
    · exact le_of_eq hfirst
    · exact le_of_eq_of_le hfirst hgreater.le
  · rintro ⟨x, hx, rfl, ⟨place, destination, hplace, hcall, rfl, hregion⟩, hleast⟩
    obtain ⟨issues, hmem, hissue⟩ := h.exists_issues hx
    obtain ⟨place', hplace', -, hat⟩ := h.issued _ hmem
    obtain rfl : place = place' := Except.ok.inj (hplace.symm.trans hplace')
    obtain ⟨arguments, rfl⟩ := hat.of_call hcall hregion
    obtain ⟨n, hn⟩ := h.first_at first hmem
    obtain ⟨hnmem, hxn | ⟨-, hgreater⟩⟩ := hn x hx rfl
    · exact ⟨x, hx, rfl, by rw [hxn]⟩
    · exact absurd (hleast _ hnmem rfl) (Int.not_le.mpr hgreater)

end IsWork

/-- The records of a pass list each loan it has issued, and each once. -/
theorem loans_withIssued_perm (items : List Issued) :
    (items.filterMap Issued.move? ++ items.filterMap Issued.argument? ++
      (items.filterMap Issued.result?).map Prod.fst).Perm (items.map Issued.loan) := by
  induction items with
  | nil => exact List.Perm.refl _
  | cons x items ih =>
    obtain ⟨loan, p, ⟨origin, region⟩⟩ := x
    cases origin with
    | move r => exact ih.cons loan
    | argument r =>
      refine (List.perm_middle.append_right _).trans ?_
      exact ih.cons loan
    | result target => exact List.perm_middle.trans (ih.cons loan)

/-! ### Rounds -/

/-- A round of completion: the tuples that are inserted before it, and what it is run on. -/
structure Round where
  extra : List (Relation × List Int)
  table : PointTable
  body : Body
  owners : Owners

/-- The facts, and the results of calls that have been recorded. -/
structure Books where
  facts : Facts
  results : List (Loan × Local)

namespace Round

/-- The facts at the start of a round. -/
def facts (r : Round) (s : Books) : Facts :=
  r.extra.foldl (fun f x => f.insert x.1 x.2) s.facts

def pass (r : Round) (s : Books) : Pass × Option Failure :=
  run (r.facts s) r.table r.body r.owners s.results

/-- What a round leaves, be it that it fails. -/
def after (r : Round) (s : Books) : Books :=
  ⟨(r.pass s).1.facts, (r.pass s).1.issued.callResults⟩

/-- A round adds a tuple to the creation of loans. -/
def Adds (r : Round) (s : Books) (t : Region × Loan × PointIndex) : Prop :=
  t ∈ (r.after s).facts.borrowRegion ∧ t ∉ (r.facts s).borrowRegion

/-- A round issues a loan. -/
def Issues (r : Round) (s : Books) (l : Loan) : Prop :=
  ∃ t, r.Adds s t ∧ t.2.1 = l

/-- A round issues a loan for the result of a call: the first one that it adds at the point of
a call, into the region of the local that receives the result. -/
def IssuesResult (r : Round) (s : Books) (l : Loan) (target : Local) : Prop :=
  ∃ region p place destination, r.table.resolve p = .ok place ∧
    r.body.IsCallAt place.location (some destination) ∧ destination.base = target ∧
    r.owners.regionOf target = some region ∧ r.Adds s (region, l, p) ∧
    ∀ t, r.Adds s t → t.2.2 = p → l ≤ t.2.1

/-- What a round has recorded by itself. -/
def recorded (r : Round) (s : Books) : Completion :=
  { (r.pass s).1.issued with
    callResults := (r.after s).results.filter fun x => x ∉ s.results }

end Round

/-- The books after several rounds. -/
def Books.after (s : Books) (rounds : List Round) : Books :=
  rounds.foldl (fun s r => r.after s) s

/-- The rounds of a run, each with the books it starts from. -/
def Books.started (s : Books) : List Round → List (Books × Round)
  | [] => []
  | r :: rounds => (s, r) :: (r.after s).started rounds

/-! ### One round -/

theorem mem_borrowRegion_insert {f : Facts} {t : Region × Loan × PointIndex}
    (h : t ∈ f.borrowRegion) (relation : Relation) (row : List Int) :
    t ∈ (f.insert relation row).borrowRegion := by
  unfold Facts.insert
  split
  case h_1 => exact List.mem_insert_of_mem h
  all_goals exact h

/-- Each recorded loan is created by a fact, and no loan is recorded twice. -/
structure Books.IsSound (s : Books) : Prop where
  created : ∀ x ∈ s.results, ∃ r p, (r, x.1, p) ∈ s.facts.borrowRegion
  nodup : (s.results.map Prod.fst).Nodup

namespace Round

variable {r : Round} {s : Books}

theorem mem_borrowRegion_facts {t : Region × Loan × PointIndex} (h : t ∈ s.facts.borrowRegion) :
    t ∈ (r.facts s).borrowRegion := by
  rw [facts]
  induction r.extra generalizing s with
  | nil => exact h
  | cons x extra ih =>
    have hinsert := mem_borrowRegion_insert h x.1 x.2
    exact ih (s := { s with facts := s.facts.insert x.1 x.2 }) hinsert

/-- What a round has issued, and what it leaves. -/
structure IsWorkOf (r : Round) (s : Books) (plan : List (PointIndex × List Issue))
    (items : List (PointIndex × Issue)) : Prop where
  work : IsWork (r.facts s) r.table r.body r.owners plan items
  facts : (r.after s).facts = (r.facts s).withIssued (numbered (firstLoan (r.facts s)) items)
  issued : (r.pass s).1.issued =
    ({ callResults := s.results } : Completion).withIssued (numbered (firstLoan (r.facts s)) items)

theorem exists_isWorkOf (r : Round) (s : Books) : ∃ plan items, r.IsWorkOf s plan items := by
  obtain ⟨plan, items, hwork, hgrows⟩ :=
    run_work (r.facts s) r.table r.body r.owners s.results
  exact ⟨plan, items, hwork, hgrows.facts, hgrows.issued⟩

section Work

variable {plan : List (PointIndex × List Issue)} {items : List (PointIndex × Issue)}
  (h : r.IsWorkOf s plan items)
include h

/-- The tuples that a round adds are those of the loans it has issued. -/
theorem adds_iff {t : Region × Loan × PointIndex} :
    r.Adds s t ↔ ∃ x ∈ numbered (firstLoan (r.facts s)) items, x.tuple = t := by
  rw [Adds, h.facts, Facts.mem_withIssued]
  constructor
  · rintro ⟨hnew | hold, hnot⟩
    · exact hnew
    · exact absurd hold hnot
  · rintro ⟨x, hx, rfl⟩
    refine ⟨.inl ⟨x, hx, rfl⟩, fun hold => ?_⟩
    exact not_mentions_of_mem_numbered (isFirstLoan_firstLoan _) hx (.inl ⟨_, _, hold⟩)

theorem issues_iff {l : Loan} :
    r.Issues s l ↔ ∃ x ∈ numbered (firstLoan (r.facts s)) items, x.loan = l := by
  rw [Issues]
  constructor
  · rintro ⟨t, ht, rfl⟩
    obtain ⟨x, hx, rfl⟩ := (adds_iff h).mp ht
    exact ⟨x, hx, rfl⟩
  · rintro ⟨x, hx, rfl⟩
    exact ⟨x.tuple, (adds_iff h).mpr ⟨x, hx, rfl⟩, rfl⟩

theorem issuesResult_iff {l : Loan} {target : Local} :
    r.IssuesResult s l target ↔
      (l, target) ∈ (numbered (firstLoan (r.facts s)) items).filterMap Issued.result? := by
  rw [h.work.result_iff]
  constructor
  · rintro ⟨region, p, place, destination, hplace, hcall, hbase, hregion, hadds, hleast⟩
    obtain ⟨x, hx, htuple⟩ := (adds_iff h).mp hadds
    obtain ⟨rfl, rfl, rfl⟩ : x.issue.region = region ∧ x.loan = l ∧ x.point = p := by
      simpa [Issued.tuple] using htuple
    refine ⟨x, hx, rfl, ⟨place, destination, hplace, hcall, hbase, hregion⟩, fun y hy hyx => ?_⟩
    exact hleast y.tuple ((adds_iff h).mpr ⟨y, hy, rfl⟩) hyx
  · rintro ⟨x, hx, rfl, ⟨place, destination, hplace, hcall, hbase, hregion⟩, hleast⟩
    refine ⟨x.issue.region, x.point, place, destination, hplace, hcall, hbase, hregion,
      (adds_iff h).mpr ⟨x, hx, rfl⟩, fun t ht hp => ?_⟩
    obtain ⟨y, hy, rfl⟩ := (adds_iff h).mp ht
    exact hleast y hy hp

/-- A loan that a round issues has a number that no fact mentions at its start. -/
theorem lt_of_issues {l l' : Loan} (hl : r.Issues s l) (hl' : (r.facts s).Mentions l') :
    l' < l := by
  obtain ⟨x, hx, rfl⟩ := (issues_iff h).mp hl
  have hlt := (isFirstLoan_firstLoan (r.facts s)).lt hl'
  exact hlt.trans_le (bounds_of_mem_numbered hx).1

/-- The entries of a round are new, so they are appended to those that were there. -/
theorem results_after (hs : s.IsSound) :
    (r.after s).results =
        s.results ++ (numbered (firstLoan (r.facts s)) items).filterMap Issued.result? ∧
      ((r.after s).results.map Prod.fst).Nodup := by
  have hnodup : ((s.results ++
      (numbered (firstLoan (r.facts s)) items).filterMap Issued.result?).map Prod.fst).Nodup := by
    rw [List.map_append, List.nodup_append]
    refine ⟨hs.nodup, nodup_results _ _, ?_⟩
    rintro l hl _ hl' rfl
    obtain ⟨x, hx, rfl⟩ := List.mem_map.mp hl
    obtain ⟨y, hy, hyx⟩ := List.mem_map.mp hl'
    obtain ⟨z, hz, hzy⟩ := List.mem_filterMap.mp hy
    -- The recorded loan is created by a fact, and the number of the new one is not in use.
    obtain ⟨region, p, hcreated⟩ := hs.created x hx
    refine not_mentions_of_mem_numbered (isFirstLoan_firstLoan _) hz
      (.inl ⟨region, p, mem_borrowRegion_facts ?_⟩)
    rw [(result?_eq_some.mp hzy).1, hyx]
    exact hcreated
  have hresults : (r.after s).results = s.results ++
      (numbered (firstLoan (r.facts s)) items).filterMap Issued.result? := by
    show (r.pass s).1.issued.callResults = _
    rw [h.issued]
    exact Assoc.foldl_put hnodup
  rw [hresults]
  exact ⟨rfl, hnodup⟩

theorem recorded_eq (hs : s.IsSound) :
    r.recorded s = ({} : Completion).withIssued (numbered (firstLoan (r.facts s)) items) := by
  obtain ⟨hresults, hnodup⟩ := results_after h hs
  have hnew : ∀ x ∈ (numbered (firstLoan (r.facts s)) items).filterMap Issued.result?,
      x ∉ s.results := by
    intro x hx hold
    rw [hresults, List.map_append, List.nodup_append] at hnodup
    exact hnodup.2.2 _ (List.mem_map_of_mem hold) _ (List.mem_map_of_mem hx) rfl
  have hfilter : (r.after s).results.filter (fun x => x ∉ s.results) =
      (numbered (firstLoan (r.facts s)) items).filterMap Issued.result? := by
    rw [hresults, List.filter_append, List.filter_eq_nil_iff.mpr (by simp), List.nil_append,
      List.filter_eq_self.mpr (by simpa using hnew)]
  rw [recorded, hfilter, h.issued, ← callResults_withIssued]
  rfl

end Work

theorem mem_borrowRegion_after {t : Region × Loan × PointIndex} (ht : t ∈ s.facts.borrowRegion) :
    t ∈ (r.after s).facts.borrowRegion := by
  obtain ⟨plan, items, h⟩ := r.exists_isWorkOf s
  rw [h.facts, Facts.mem_withIssued]
  exact .inr (mem_borrowRegion_facts ht)

theorem isSound_after (hs : s.IsSound) : (r.after s).IsSound := by
  obtain ⟨plan, items, h⟩ := r.exists_isWorkOf s
  obtain ⟨hresults, hnodup⟩ := results_after h hs
  refine ⟨fun x hx => ?_, hnodup⟩
  rw [hresults] at hx
  rcases List.mem_append.mp hx with hx | hx
  · obtain ⟨region, p, hcreated⟩ := hs.created x hx
    exact ⟨region, p, mem_borrowRegion_after hcreated⟩
  · obtain ⟨y, hy, hyx⟩ := List.mem_filterMap.mp hx
    rw [← (result?_eq_some.mp hyx).1]
    exact ⟨y.issue.region, y.point, ((adds_iff h).mpr ⟨y, hy, rfl⟩).1⟩

theorem mem_results_after (hs : s.IsSound) {l : Loan} {target : Local} :
    (l, target) ∈ (r.after s).results ↔ (l, target) ∈ s.results ∨ r.IssuesResult s l target := by
  obtain ⟨plan, items, h⟩ := r.exists_isWorkOf s
  rw [(results_after h hs).1, List.mem_append, issuesResult_iff h]

/-- Each loan that a round issues is greater than all loans at its start and created by one
tuple. -/
theorem issues_once {l : Loan} (hl : r.Issues s l) :
    (∀ l', (r.facts s).Mentions l' → l' < l) ∧ ∃! t, r.Adds s t ∧ t.2.1 = l := by
  obtain ⟨plan, items, h⟩ := r.exists_isWorkOf s
  refine ⟨fun l' hl' => lt_of_issues h hl hl', ?_⟩
  obtain ⟨t, ht, rfl⟩ := hl
  refine ⟨t, ⟨ht, rfl⟩, ?_⟩
  rintro t' ⟨ht', heq⟩
  obtain ⟨x, hx, rfl⟩ := (adds_iff h).mp ht
  obtain ⟨y, hy, rfl⟩ := (adds_iff h).mp ht'
  rw [eq_of_loan_eq hy hx heq]

/-- A round records each loan that it issues in exactly one place. -/
theorem recorded_once (hs : s.IsSound) :
    (r.recorded s).loans.Nodup ∧ ∀ l, l ∈ (r.recorded s).loans ↔ r.Issues s l := by
  obtain ⟨plan, items, h⟩ := r.exists_isWorkOf s
  have hperm : (r.recorded s).loans.Perm
      ((numbered (firstLoan (r.facts s)) items).map Issued.loan) := by
    rw [recorded_eq h hs, loans, callResults_withIssued]
    exact loans_withIssued_perm _
  constructor
  · rw [hperm.nodup_iff]
    exact (List.pairwise_map.mpr (ascending_numbered _ _)).imp ne_of_lt
  · intro l
    rw [hperm.mem_iff, List.mem_map, issues_iff h]

end Round

/-! ### Runs of rounds -/

namespace Books

theorem isSound_start (f : Facts) : (⟨f, []⟩ : Books).IsSound :=
  ⟨fun _ hx => absurd hx List.not_mem_nil, List.nodup_nil⟩

theorem isSound_after {s : Books} (hs : s.IsSound) (rounds : List Round) :
    (s.after rounds).IsSound := by
  induction rounds generalizing s with
  | nil => exact hs
  | cons r rounds ih => exact ih (Round.isSound_after hs)

theorem isSound_of_mem_started {s : Books} (hs : s.IsSound) {rounds : List Round}
    {x : Books × Round} (hx : x ∈ s.started rounds) : x.1.IsSound := by
  induction rounds generalizing s with
  | nil => cases hx
  | cons r rounds ih =>
    rcases List.mem_cons.mp hx with rfl | hx
    · exact hs
    · exact ih (Round.isSound_after hs) hx

/-- Loans that are created stay created in all later rounds. -/
theorem mem_borrowRegion_started {s : Books} {t : Region × Loan × PointIndex}
    (ht : t ∈ s.facts.borrowRegion) {rounds : List Round} {x : Books × Round}
    (hx : x ∈ s.started rounds) : t ∈ (x.2.facts x.1).borrowRegion := by
  induction rounds generalizing s with
  | nil => cases hx
  | cons r rounds ih =>
    rcases List.mem_cons.mp hx with rfl | hx
    · exact Round.mem_borrowRegion_facts ht
    · exact ih (Round.mem_borrowRegion_after ht) hx

/-- No loan is issued in two rounds. -/
theorem issues_pairwise (s : Books) (rounds : List Round) :
    (s.started rounds).Pairwise fun x y => ∀ l, x.2.Issues x.1 l → ¬ y.2.Issues y.1 l := by
  induction rounds generalizing s with
  | nil => exact List.Pairwise.nil
  | cons r rounds ih =>
    refine List.pairwise_cons.mpr ⟨fun y hy l hl hl' => ?_, ih _⟩
    obtain ⟨⟨region, l, p⟩, hadds, rfl⟩ := hl
    have hmentions : (y.2.facts y.1).Mentions l :=
      .inl ⟨region, p, mem_borrowRegion_started hadds.1 hy⟩
    exact absurd ((Round.issues_once hl').1 l hmentions) (Int.lt_irrefl l)

theorem mem_results_of_started {s : Books} (hs : s.IsSound) (rounds : List Round) {l : Loan}
    {target : Local} :
    (l, target) ∈ (s.after rounds).results ↔
      (l, target) ∈ s.results ∨ ∃ x ∈ s.started rounds, x.2.IssuesResult x.1 l target := by
  induction rounds generalizing s with
  | nil => simp [after, started]
  | cons r rounds ih =>
    have hafter : s.after (r :: rounds) = (r.after s).after rounds := rfl
    rw [hafter, ih (Round.isSound_after hs), Round.mem_results_after hs, or_assoc]
    simp [started]

end Books

/-- **Loans are never issued twice.**  Whatever is inserted between the rounds of a run and
whichever of them fail, each loan that a round issues is greater than all loans mentioned at
its start and created by exactly one of the tuples it adds, and no other round issues it.  A
round that succeeds lists each of its loans exactly once, as the move of a reference, an
argument or a result.  In the end the results that are recorded are those of all rounds, each
with the local that receives it. -/
theorem rounds_loans (f : Facts) (rounds : List Round) :
    (∀ x ∈ (⟨f, []⟩ : Books).started rounds,
      (∀ l, x.2.Issues x.1 l →
        (∀ l', (x.2.facts x.1).Mentions l' → l' < l) ∧ ∃! t, x.2.Adds x.1 t ∧ t.2.1 = l) ∧
      ((x.2.pass x.1).2 = none →
        (x.2.recorded x.1).loans.Nodup ∧ ∀ l, l ∈ (x.2.recorded x.1).loans ↔ x.2.Issues x.1 l)) ∧
    ((⟨f, []⟩ : Books).started rounds).Pairwise
      (fun x y => ∀ l, x.2.Issues x.1 l → ¬ y.2.Issues y.1 l) ∧
    (∀ l target, (l, target) ∈ ((⟨f, []⟩ : Books).after rounds).results ↔
      ∃ x ∈ (⟨f, []⟩ : Books).started rounds, x.2.IssuesResult x.1 l target) ∧
    (((⟨f, []⟩ : Books).after rounds).results.map Prod.fst).Nodup := by
  have hsound := Books.isSound_start f
  refine ⟨fun x hx => ⟨fun l hl => Round.issues_once hl, fun _ => ?_⟩, ?_, fun l target => ?_, ?_⟩
  · exact Round.recorded_once (Books.isSound_of_mem_started hsound hx)
  · exact Books.issues_pairwise _ rounds
  · rw [Books.mem_results_of_started hsound]
    simp
  · exact (Books.isSound_after hsound rounds).nodup

def moveRound : Round :=
  ⟨[], movePoints, moveBody, moveOwners⟩

/-- A round that fails at the call, since the point of the call is not known. -/
def lostRound : Round :=
  ⟨[], (PointTable.ofPoints [⟨⟨0, 0⟩, .mid⟩, ⟨⟨0, 1⟩, .mid⟩]).freeze, moveBody, moveOwners⟩

/-- The books after the round that fails. -/
def lostBooks : Books :=
  lostRound.after ⟨moveFacts, []⟩

theorem lostBooks_eq :
    lostBooks = ⟨{ moveFacts with borrowRegion := [(3, 11, 0), (5, 3, 7)] }, []⟩ := by
  show (⟨(run moveFacts lostRound.table moveBody moveOwners).1.facts,
    (run moveFacts lostRound.table moveBody moveOwners).1.issued.callResults⟩ : Books) = _
  rw [run, eligible_moveFacts]
  rfl

theorem eligible_lostBooks : eligible lostBooks.facts = [(1, [(4, 5)]), (2, [(6, 7)])] := by
  rw [lostBooks_eq]
  cbv

/-- A round fails after it has issued a loan, and the next one succeeds, issues others and
lists them. -/
theorem lostRound_loans :
    (lostRound.pass ⟨moveFacts, []⟩).2.isSome = true ∧ lostRound.Issues ⟨moveFacts, []⟩ 11 ∧
      (moveRound.pass lostBooks).2 = none ∧ (moveRound.recorded lostBooks).loans.Nodup ∧
      (∀ l, l ∈ (moveRound.recorded lostBooks).loans ↔ moveRound.Issues lostBooks l) ∧
      moveRound.Issues lostBooks 12 ∧ ¬ moveRound.Issues lostBooks 11 := by
  have hlost : (lostRound.pass ⟨moveFacts, []⟩).2.isSome = true := by
    show (run moveFacts lostRound.table moveBody moveOwners).2.isSome = true
    rw [run, eligible_moveFacts]
    decide
  have hissues : lostRound.Issues ⟨moveFacts, []⟩ 11 := by
    refine ⟨(3, 11, 0), ⟨?_, by decide⟩, rfl⟩
    show (3, 11, 0) ∈ lostBooks.facts.borrowRegion
    rw [lostBooks_eq]
    decide
  have hpass : moveRound.pass lostBooks =
      run lostBooks.facts movePoints moveBody moveOwners lostBooks.results := rfl
  have hmove : (moveRound.pass lostBooks).2 = none := by
    rw [hpass, run, eligible_lostBooks, lostBooks_eq]
    decide
  have hcreated : (moveRound.after lostBooks).facts.borrowRegion =
      [(6, 13, 2), (9, 12, 2), (3, 11, 0), (5, 3, 7)] := by
    rw [Round.after, hpass, run, eligible_lostBooks, lostBooks_eq]
    rfl
  obtain ⟨hrounds, hpairwise, -⟩ := rounds_loans moveFacts [lostRound, moveRound]
  obtain ⟨hnodup, hlisted⟩ :=
    (hrounds (lostBooks, moveRound) (List.mem_cons_of_mem _ List.mem_cons_self)).2 hmove
  refine ⟨hlost, hissues, hmove, hnodup, hlisted, ?_, ?_⟩
  · refine ⟨(9, 12, 2), ⟨?_, ?_⟩, rfl⟩
    · rw [hcreated]
      decide
    · rw [lostBooks_eq]
      decide
  · exact (List.pairwise_cons.mp hpairwise).1 (lostBooks, moveRound) List.mem_cons_self 11 hissues

end BorrowGraph.Completion
