/-
What a pass of completion adds.

A pass issues loans one by one, under consecutive numbers.  `Pass.Adds s items s'` says that
`s'` comes from `s` by adding exactly the given items: to the creation of loans, to the record
of what was issued and to the count.  Such steps compose (`Adds.trans`), and issuing consists
of them (`issue_cases`, `issueAll_cases`).  No tuple gets lost on the way, since numbers that
are still to come are not in use (`Pass.IsFresh`).

`IssuedAt` says what is issued at a location, from what stands there, and `issuesAt_eq_ok` that
the code finds exactly this at each location of the body.
-/
import BorrowGraph.Proofs.BodyQueries
import BorrowGraph.Proofs.Eligibility

namespace BorrowGraph

/-! ### Association lists -/

theorem Assoc.put_of_not_mem {κ α : Type} [DecidableEq κ] {key : κ} {value : α}
    {entries : List (κ × α)} (h : key ∉ entries.map Prod.fst) :
    Assoc.put key value entries = entries ++ [(key, value)] := by
  induction entries with
  | nil => rfl
  | cons x entries ih =>
    obtain ⟨k, v⟩ := x
    rw [List.map_cons, List.mem_cons, not_or] at h
    rw [Assoc.put, if_neg (fun e => h.1 e.symm), ih h.2, List.cons_append]

/-- Pairs with new keys are put at the end. -/
theorem Assoc.foldl_put {κ α : Type} [DecidableEq κ] {entries xs : List (κ × α)}
    (h : ((entries ++ xs).map Prod.fst).Nodup) :
    xs.foldl (fun entries x => Assoc.put x.1 x.2 entries) entries = entries ++ xs := by
  induction xs generalizing entries with
  | nil => rw [List.foldl_nil, List.append_nil]
  | cons x xs ih =>
    have hx : x.1 ∉ entries.map Prod.fst := by
      rw [List.map_append, List.nodup_append] at h
      intro hmem
      exact h.2.2 _ hmem x.1 (by simp) rfl
    rw [List.foldl_cons, Assoc.put_of_not_mem hx, ih]
    · rw [List.append_assoc, List.singleton_append]
    · rwa [List.append_assoc, List.singleton_append]

namespace Completion

/-! ### Numbered loans -/

/-- A loan that has been issued at a point. -/
structure Issued where
  loan : Loan
  point : PointIndex
  issue : Issue

namespace Issued

/-- The fact that creates the loan. -/
def tuple (x : Issued) : Region × Loan × PointIndex :=
  (x.issue.region, x.loan, x.point)

/-- The loan, if a reference is moved. -/
def move? (x : Issued) : Option Loan :=
  match x.issue.origin with
  | .move _ => some x.loan
  | _ => none

/-- The loan, if a reference is passed to a call. -/
def argument? (x : Issued) : Option Loan :=
  match x.issue.origin with
  | .argument _ => some x.loan
  | _ => none

/-- The loan with the local that receives it, if it is the result of a call. -/
def result? (x : Issued) : Option (Loan × Local) :=
  match x.issue.origin with
  | .result target => some (x.loan, target)
  | _ => none

end Issued

/-- Loans under consecutive numbers. -/
def numbered (first : Loan) : List (PointIndex × Issue) → List Issued
  | [] => []
  | (p, i) :: rest => ⟨first, p, i⟩ :: numbered (first + 1) rest

theorem numbered_append (first : Loan) (xs ys : List (PointIndex × Issue)) :
    numbered first (xs ++ ys) = numbered first xs ++ numbered (first + xs.length) ys := by
  induction xs generalizing first with
  | nil => simp [numbered]
  | cons x xs ih =>
    obtain ⟨p, i⟩ := x
    have hnext : first + 1 + (xs.length : Int) = first + ((xs.length + 1 : Nat) : Int) := by
      lia
    rw [List.cons_append, numbered, numbered, ih, List.cons_append, List.length_cons, hnext]

/-- The numbers start at the first one and stay below the next one. -/
theorem bounds_of_mem_numbered {first : Loan} {xs : List (PointIndex × Issue)} {x : Issued}
    (h : x ∈ numbered first xs) : first ≤ x.loan ∧ x.loan < first + xs.length := by
  induction xs generalizing first with
  | nil => simp [numbered] at h
  | cons y xs ih =>
    obtain ⟨p, i⟩ := y
    rw [List.length_cons]
    rcases List.mem_cons.mp h with rfl | h
    · exact ⟨le_refl _, by simp only; lia⟩
    · obtain ⟨hle, hlt⟩ := ih h
      exact ⟨by lia, by lia⟩

/-- Numbers from the first free one on are not in use. -/
theorem not_mentions_of_mem_numbered {f : Facts} {first : Loan} (hfirst : IsFirstLoan f first)
    {xs : List (PointIndex × Issue)} {x : Issued} (hx : x ∈ numbered first xs) :
    ¬ f.Mentions x.loan := by
  intro hmentions
  have hle := (bounds_of_mem_numbered hx).1
  have hlt := hfirst.lt hmentions
  exact absurd hle (Int.not_le.mpr hlt)

/-- Different loans have different numbers, in ascending order. -/
theorem ascending_numbered (first : Loan) (xs : List (PointIndex × Issue)) :
    (numbered first xs).Pairwise fun x y => x.loan < y.loan := by
  induction xs generalizing first with
  | nil => exact List.Pairwise.nil
  | cons y xs ih =>
    obtain ⟨p, i⟩ := y
    refine List.pairwise_cons.mpr ⟨fun x hx => ?_, ih _⟩
    have hle := (bounds_of_mem_numbered hx).1
    simp only
    lia

/-- Where the loans were issued. -/
theorem map_point_numbered (first : Loan) (xs : List (PointIndex × Issue)) :
    (numbered first xs).map Issued.point = xs.map Prod.fst := by
  induction xs generalizing first with
  | nil => rfl
  | cons x xs ih =>
    obtain ⟨p, i⟩ := x
    rw [numbered, List.map_cons, ih, List.map_cons]

end Completion

open Completion in
/-- The facts with further loans. -/
def Facts.withIssued (f : Facts) (items : List Issued) : Facts :=
  { f with borrowRegion := (items.map Issued.tuple).reverse ++ f.borrowRegion }

namespace Completion

/-- The record with further loans. -/
def withIssued (c : Completion) (items : List Issued) : Completion :=
  { referenceMoves := c.referenceMoves ++ items.filterMap Issued.move?
    argumentMoves := c.argumentMoves ++ items.filterMap Issued.argument?
    callResults := (items.filterMap Issued.result?).foldl
      (fun entries x => Assoc.put x.1 x.2 entries) c.callResults }

theorem withIssued_nil (c : Completion) : c.withIssued [] = c := by
  simp [withIssued]

theorem withIssued_append (c : Completion) (xs ys : List Issued) :
    c.withIssued (xs ++ ys) = (c.withIssued xs).withIssued ys := by
  simp [withIssued]

theorem record_eq_withIssued (c : Completion) (loan : Loan) (p : PointIndex) (i : Issue) :
    record c loan i.origin = c.withIssued [⟨loan, p, i⟩] := by
  obtain ⟨origin, region⟩ := i
  cases origin with
  | result target =>
    simp only [record, withIssued, Issued.move?, Issued.argument?, Issued.result?,
      List.filterMap_cons, List.filterMap_nil, List.foldl_cons, List.foldl_nil, List.append_nil]
  | argument second =>
    simp only [record, withIssued, Issued.move?, Issued.argument?, Issued.result?,
      List.filterMap_cons, List.filterMap_nil, List.foldl_nil, List.append_nil]
  | move first =>
    simp only [record, withIssued, Issued.move?, Issued.argument?, Issued.result?,
      List.filterMap_cons, List.filterMap_nil, List.foldl_nil, List.append_nil]

end Completion

theorem Facts.withIssued_append (f : Facts) (xs ys : List Completion.Issued) :
    f.withIssued (xs ++ ys) = (f.withIssued xs).withIssued ys := by
  simp [Facts.withIssued]

theorem Facts.mem_withIssued {f : Facts} {items : List Completion.Issued}
    {t : Region × Loan × PointIndex} :
    t ∈ (f.withIssued items).borrowRegion ↔ (∃ x ∈ items, x.tuple = t) ∨ t ∈ f.borrowRegion := by
  simp [Facts.withIssued]

namespace Completion

/-! ### Steps of a pass -/

namespace Pass

/-- Numbers that are still to come are not in use. -/
def IsFresh (s : Pass) : Prop :=
  ∀ t ∈ s.facts.borrowRegion, t.2.1 < s.next

/-- The facts and the record of a pass come from those of another one by adding exactly the given
items. -/
structure Grows (s : Pass) (items : List (PointIndex × Issue)) (s' : Pass) : Prop where
  facts : s'.facts = s.facts.withIssued (numbered s.next items)
  issued : s'.issued = s.issued.withIssued (numbered s.next items)

/-- A pass comes from another one by adding exactly the given items; the logs do not matter. -/
structure Adds (s : Pass) (items : List (PointIndex × Issue)) (s' : Pass) : Prop
    extends Grows s items s' where
  next : s'.next = s.next + items.length

theorem Grows.refl (s : Pass) : s.Grows [] s where
  facts := rfl
  issued := (withIssued_nil _).symm

theorem Adds.refl (s : Pass) : s.Adds [] s where
  toGrows := Grows.refl s
  next := (Int.add_zero _).symm

theorem Adds.grows {s s' s'' : Pass} {xs ys : List (PointIndex × Issue)} (h : s.Adds xs s')
    (h' : s'.Grows ys s'') : s.Grows (xs ++ ys) s'' where
  facts := by
    rw [h'.facts, h.facts, h.next, numbered_append, Facts.withIssued_append]
  issued := by
    rw [h'.issued, h.issued, h.next, numbered_append, withIssued_append]

theorem Adds.trans {s s' s'' : Pass} {xs ys : List (PointIndex × Issue)} (h : s.Adds xs s')
    (h' : s'.Adds ys s'') : s.Adds (xs ++ ys) s'' where
  toGrows := h.grows h'.toGrows
  next := by
    rw [h'.next, h.next, List.length_append]
    lia

theorem Adds.isFresh {s s' : Pass} {items : List (PointIndex × Issue)} (h : s.Adds items s')
    (hs : s.IsFresh) : s'.IsFresh := by
  intro t ht
  rw [h.facts, Facts.mem_withIssued] at ht
  rw [h.next]
  rcases ht with ⟨x, hx, rfl⟩ | ht
  · exact (bounds_of_mem_numbered hx).2
  · have hlt := hs t ht
    lia

/-- The log of a pass does not matter. -/
theorem Adds.log {s s' : Pass} {items : List (PointIndex × Issue)} (h : s.Adds items s')
    (log : List LogEntry) : s.Adds items { s' with log := log } :=
  ⟨⟨h.facts, h.issued⟩, h.next⟩

/-- Adding a loan under a number that is not in use adds a tuple. -/
theorem add_adds {s : Pass} (hs : s.IsFresh) (p : PointIndex) (i : Issue) :
    s.Adds [(p, i)] (s.add p i) where
  facts := by
    have hnew : (i.region, s.next, p) ∉ s.facts.borrowRegion := by
      intro h
      exact absurd (hs _ h) (Int.lt_irrefl _)
    show s.facts.insert .borrowRegion [i.region, s.next, p] = _
    rw [Facts.insert, List.insert_of_not_mem hnew]
    rfl
  issued := record_eq_withIssued _ _ _ _
  next := rfl

/-- A pass has stopped at one of the given items, since its number is too large to be written.  Only
items before it have been added, and possibly the item itself. -/
structure Stops (s : Pass) (items : List (PointIndex × Issue)) (s' : Pass) : Prop where
  added : ∃ done, done <+: items ∧ s.Grows done s'
  tooLarge : ∃ x ∈ numbered s.next items, Decimal.fits x.loan = false

/-- A pass that has stopped does not look at further items. -/
theorem Stops.append {s s' : Pass} {xs : List (PointIndex × Issue)} (h : s.Stops xs s')
    (ys : List (PointIndex × Issue)) : s.Stops (xs ++ ys) s' where
  added := by
    obtain ⟨done, hdone, hgrows⟩ := h.added
    exact ⟨done, hdone.trans (List.prefix_append xs ys), hgrows⟩
  tooLarge := by
    obtain ⟨x, hx, hfits⟩ := h.tooLarge
    rw [numbered_append]
    exact ⟨x, List.mem_append_left _ hx, hfits⟩

theorem Adds.stops {s s' s'' : Pass} {xs ys : List (PointIndex × Issue)} (h : s.Adds xs s')
    (h' : s'.Stops ys s'') : s.Stops (xs ++ ys) s'' where
  added := by
    obtain ⟨done, hdone, hgrows⟩ := h'.added
    exact ⟨xs ++ done, (List.prefix_append_right_inj xs).mpr hdone, h.grows hgrows⟩
  tooLarge := by
    obtain ⟨x, hx, hfits⟩ := h'.tooLarge
    rw [h.next] at hx
    rw [numbered_append]
    exact ⟨x, List.mem_append_right _ hx, hfits⟩

/-- A loan is issued, or its number is too large; the loan for a result is not recorded then. -/
theorem issue_cases {s : Pass} (hs : s.IsFresh) (l : Location) (p : PointIndex) (i : Issue) :
    (∃ s', s.issue l p i = (s', none) ∧ s.Adds [(p, i)] s') ∨
      ∃ s', s.issue l p i = (s', some .tooLargeToWrite) ∧ s.Stops [(p, i)] s' := by
  by_cases hfits : Decimal.fits s.next = true
  · left
    refine ⟨(s.add p i).note (entry l s.next i), ?_, ?_⟩
    · rw [issue, if_pos hfits]
    · exact (add_adds hs p i).log _
  · right
    have hlarge : ∃ x ∈ numbered s.next [(p, i)], Decimal.fits x.loan = false :=
      ⟨⟨s.next, p, i⟩, List.mem_singleton_self _, by simpa using hfits⟩
    rw [issue, if_neg hfits]
    split
    · refine ⟨_, rfl, ⟨[], List.nil_prefix, ?_⟩, hlarge⟩
      exact ⟨rfl, (withIssued_nil _).symm⟩
    · exact ⟨_, rfl, ⟨_, List.prefix_refl _, (add_adds hs p i).toGrows⟩, hlarge⟩

/-- Several loans are issued, or a number is too large and only some of them are. -/
theorem issueAll_cases {l : Location} {p : PointIndex} {issues : List Issue} :
    ∀ {s : Pass}, s.IsFresh →
      (∃ s', s.issueAll l p issues = (s', none) ∧ s.Adds (issues.map fun i => (p, i)) s') ∨
        ∃ s', s.issueAll l p issues = (s', some .tooLargeToWrite) ∧
          s.Stops (issues.map fun i => (p, i)) s' := by
  induction issues with
  | nil =>
    intro s _
    exact .inl ⟨s, by rw [issueAll], Adds.refl s⟩
  | cons i issues ih =>
    intro s hs
    rw [issueAll, List.map_cons, ← List.singleton_append]
    rcases issue_cases hs l p i with ⟨s₁, hi, hadds⟩ | ⟨s₁, hi, hstops⟩
    · rw [hi]
      rcases ih (hadds.isFresh hs) with ⟨s', hrest, hadds'⟩ | ⟨s', hrest, hstops⟩
      · exact .inl ⟨s', hrest, hadds.trans hadds'⟩
      · exact .inr ⟨s', hrest, hadds.stops hstops⟩
    · rw [hi]
      exact .inr ⟨s₁, rfl, hstops.append _⟩

end Pass

/-! ### What is issued at a location -/

/-- What is issued at a point that lies at a location. -/
inductive IssuedAt (f : Facts) (body : Body) (owners : Owners) (p : PointIndex) (l : Location) :
    List Issue → Prop where
  /-- At a call: a loan for the region of the local that receives the result, if there is one, then
  one into the first region of each pair, in order. -/
  | call {destination : Option Place} {pairs : List (Region × Region)} :
      body.IsCallAt l destination → f.IsPairsAt p pairs →
      IssuedAt f body owners p l
        ((destination.toList.flatMap fun place =>
            (owners.regionOf place.base).toList.map fun r => ⟨.result place.base, r⟩)
          ++ pairs.map fun a => ⟨.argument a.2, a.1⟩)
  /-- At an assignment: a loan into the second region of the greatest pair. -/
  | assignment {r₁ r₂ : Region} : body.IsAssignmentAt l →
      IsGreatest (f.innerPairs p) (r₁, r₂) → IssuedAt f body owners p l [⟨.move r₁, r₂⟩]
  /-- Anywhere else: none. -/
  | other : (∀ destination, ¬ body.IsCallAt l destination) → ¬ body.IsAssignmentAt l →
      IssuedAt f body owners p l []

section IssuedAt

variable {f : Facts} {body : Body} {owners : Owners} {p : PointIndex} {l : Location}

theorem IssuedAt.unique {xs ys : List Issue} (h : IssuedAt f body owners p l xs)
    (h' : IssuedAt f body owners p l ys) : xs = ys := by
  cases h with
  | call hc hp =>
    cases h' with
    | call hc' hp' => rw [hc.unique hc', hp.unique hp']
    | assignment ha' => exact absurd ha' hc.not_isAssignmentAt
    | other hc' => exact absurd hc (hc' _)
  | assignment ha hg =>
    cases h' with
    | call hc' => exact absurd ha hc'.not_isAssignmentAt
    | assignment ha' hg' =>
      obtain ⟨rfl, rfl⟩ := Prod.mk.inj (hg.unique hg')
      rfl
    | other _ ha' => exact absurd ha ha'
  | other hc ha =>
    cases h' with
    | call hc' => exact absurd hc' (hc _)
    | assignment ha' => exact absurd ha' ha
    | other => rfl

theorem resultIssue_eq (owners : Owners) (destination : Option Place) :
    resultIssue owners destination = destination.toList.flatMap fun place =>
      (owners.regionOf place.base).toList.map fun r => ⟨.result place.base, r⟩ := by
  cases destination with
  | none => rfl
  | some place =>
    rw [resultIssue, Option.toList_some, List.flatMap_singleton]
    cases owners.regionOf place.base with
    | none => rfl
    | some r => rfl

/-- At a location of the body the loans to be issued are found. -/
theorem issuesAt_eq_ok (hl : body.contains l = true) (hp : f.innerPairs p ≠ []) :
    ∃ issues, issuesAt body owners l (f.outlivesAt p) = .ok issues ∧
      IssuedAt f body owners p l issues := by
  have hpairs := Facts.outlivesAt_isPairsAt f p
  rcases Body.contains_cases hl with ⟨d, hat, hc, hd⟩ | ⟨hat, hc, ha⟩ | ⟨hnc, hna, hc, ha⟩
  · refine ⟨_, ?_, .call hat hpairs⟩
    rw [issuesAt, hc, hd, ← resultIssue_eq]
    rfl
  · have hne : f.outlivesAt p ≠ [] := fun h => hp (List.perm_nil.mp (h ▸ hpairs.perm.symm))
    obtain ⟨⟨r₁, r₂⟩, hg, hmem, hle⟩ := greatest?_isGreatest hne
    refine ⟨[⟨.move r₁, r₂⟩], ?_, .assignment hat ⟨Facts.mem_outlivesAt.mp hmem, ?_⟩⟩
    · rw [issuesAt, hc, ha, hg]
      rfl
    · intro a ha
      exact hle a (Facts.mem_outlivesAt.mpr ha)
  · refine ⟨[], ?_, .other hnc hna⟩
    rw [issuesAt, hc, ha]
    rfl

end IssuedAt

end Completion
end BorrowGraph
