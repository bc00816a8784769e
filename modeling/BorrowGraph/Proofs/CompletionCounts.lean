/-
How many loans a pass of completion counts.

What a pass has issued is told by the tuples that the creation of loans has gained
(`Facts.growth`).  The record of a pass lists the moves of references and the arguments of this
pass, but the results of calls go into a list that the caller may have filled before, and all
of this list is counted.  So the count is the growth, and on top of it the entries that were
there already and were not given to a new loan (`Round.count_eq_growth_add`).  It is the growth
alone exactly if there are no such entries: always for an empty list, and never for a list that
earlier rounds have filled.
-/
import BorrowGraph.Proofs.CompletionRounds
import BorrowGraph.Proofs.OwnerTables
import Mathlib.Data.Finset.Card

namespace BorrowGraph

/-! ### Pairs put into an association list -/

namespace Assoc

variable {κ α : Type} [DecidableEq κ] {entries xs : List (κ × α)}

theorem mem_keys_foldl_put {key : κ} :
    key ∈ (xs.foldl (fun entries x => put x.1 x.2 entries) entries).map Prod.fst ↔
      key ∈ xs.map Prod.fst ∨ key ∈ entries.map Prod.fst := by
  induction xs generalizing entries with
  | nil => simp
  | cons x xs ih =>
    rw [List.foldl_cons, ih, mem_keys_put, List.map_cons, List.mem_cons]
    exact or_left_comm.trans or_assoc.symm

theorem nodup_keys_foldl_put (h : (entries.map Prod.fst).Nodup) :
    ((xs.foldl (fun entries x => put x.1 x.2 entries) entries).map Prod.fst).Nodup := by
  induction xs generalizing entries with
  | nil => exact h
  | cons x xs ih => exact ih (nodup_keys_put h)

/-- Pairs that are put into a list are all there afterwards, and with them the entries under
other keys. -/
theorem length_foldl_put_eq (hxs : (xs.map Prod.fst).Nodup)
    (hentries : (entries.map Prod.fst).Nodup) :
    (xs.foldl (fun entries x => put x.1 x.2 entries) entries).length =
      xs.length + (entries.filter fun x => x.1 ∉ xs.map Prod.fst).length := by
  have hkeys : ((xs ++ entries.filter fun x => x.1 ∉ xs.map Prod.fst).map Prod.fst).Nodup := by
    rw [List.map_append, List.nodup_append]
    refine ⟨hxs, hentries.sublist (List.filter_sublist.map _), ?_⟩
    rintro k hk _ hk' rfl
    obtain ⟨x, hx, rfl⟩ := List.mem_map.mp hk'
    exact absurd hk (by simpa using (List.mem_filter.mp hx).2)
  have hput : ((xs.foldl (fun entries x => put x.1 x.2 entries) entries).map Prod.fst).Nodup :=
    nodup_keys_foldl_put hentries
  have hperm := (List.perm_ext_iff_of_nodup hput hkeys).mpr fun k => by
    rw [mem_keys_foldl_put, List.map_append, List.mem_append]
    by_cases hk : k ∈ xs.map Prod.fst
    · simp [hk]
    · refine or_congr_right ?_
      simp only [List.mem_map, List.mem_filter]
      constructor
      · rintro ⟨x, hx, rfl⟩
        exact ⟨x, ⟨hx, by simpa using hk⟩, rfl⟩
      · rintro ⟨x, hx, rfl⟩
        exact ⟨x, hx.1, rfl⟩
  simpa using hperm.length_eq

end Assoc

/-! ### Growth -/

/-- By how many tuples the creation of loans has grown. -/
def Facts.growth (f f' : Facts) : Int :=
  f'.borrowRegion.toFinset.card - f.borrowRegion.toFinset.card

namespace Completion

/-- Loans under numbers that are not in use are as many tuples. -/
theorem growth_withIssued {f : Facts} {first : Loan} (hfirst : IsFirstLoan f first)
    (items : List (PointIndex × Issue)) :
    f.growth (f.withIssued (numbered first items)) = (numbered first items).length := by
  have hnodup : ((numbered first items).map Issued.tuple).Nodup := by
    refine List.pairwise_map.mpr ((ascending_numbered first items).imp fun hlt heq => ?_)
    exact absurd (congrArg (fun t => t.2.1) heq) (ne_of_lt hlt)
  have hdisjoint :
      Disjoint ((numbered first items).map Issued.tuple).toFinset f.borrowRegion.toFinset := by
    rw [Finset.disjoint_left]
    intro t ht hold
    obtain ⟨x, hx, rfl⟩ := List.mem_map.mp (List.mem_toFinset.mp ht)
    exact not_mentions_of_mem_numbered hfirst hx (.inl ⟨_, _, List.mem_toFinset.mp hold⟩)
  rw [Facts.growth, Facts.withIssued, List.toFinset_append, List.toFinset_reverse,
    Finset.card_union_of_disjoint hdisjoint, List.toFinset_card_of_nodup hnodup, List.length_map]
  lia

/-- The loans of a pass are counted, and with them the results that were recorded before under
other loans. -/
theorem count_withIssued {results : List (Loan × Local)} (h : (results.map Prod.fst).Nodup)
    (first : Loan) (items : List (PointIndex × Issue)) :
    (({ callResults := results } : Completion).withIssued (numbered first items)).count =
      (numbered first items).length + (results.filter fun x =>
        x.1 ∉ ((numbered first items).filterMap Issued.result?).map Prod.fst).length := by
  have hloans := (loans_withIssued_perm (numbered first items)).length_eq
  simp only [List.length_append, List.length_map] at hloans
  rw [count, withIssued, Assoc.length_foldl_put_eq (nodup_results first items) h]
  simp only [List.nil_append]
  omega

namespace Round

/-- A loan that is recorded by an earlier round is not issued again. -/
theorem not_issuesResult_of_isSound {r : Round} {s : Books} (hs : s.IsSound) {x : Loan × Local}
    (hx : x ∈ s.results) (target : Local) : ¬ r.IssuesResult s x.1 target := by
  rintro ⟨region, p, -, -, -, -, -, -, hadds, -⟩
  obtain ⟨region', p', hcreated⟩ := hs.created x hx
  have hlt :=
    (issues_once ⟨_, hadds, rfl⟩).1 x.1 (.inl ⟨region', p', mem_borrowRegion_facts hcreated⟩)
  exact absurd hlt (Int.lt_irrefl _)

/-- **What a pass counts.**  A pass, be it that it fails, counts the tuples by which the
creation of loans has grown, and on top of them the results that were recorded before and whose
loans it does not issue for a result once more.  So it counts what it has added exactly if
there are no such results, and not once earlier rounds have recorded any. -/
theorem count_eq_growth_add (r : Round) (s : Books) (hkeys : (s.results.map Prod.fst).Nodup) :
    (∃ kept, List.Sublist kept s.results ∧
      (∀ x ∈ s.results, x ∈ kept ↔ ∀ target, ¬ r.IssuesResult s x.1 target) ∧
      ((r.pass s).1.issued.count : Int) = (r.facts s).growth (r.after s).facts + kept.length) ∧
    (((r.pass s).1.issued.count : Int) = (r.facts s).growth (r.after s).facts ↔
      ∀ x ∈ s.results, ∃ target, r.IssuesResult s x.1 target) ∧
    (s.IsSound → ((r.pass s).1.issued.count : Int) =
      (r.facts s).growth (r.after s).facts + s.results.length) := by
  obtain ⟨plan, items, h⟩ := r.exists_isWorkOf s
  have hgrowth : (r.facts s).growth (r.after s).facts =
      (numbered (firstLoan (r.facts s)) items).length := by
    rw [h.facts]
    exact growth_withIssued (isFirstLoan_firstLoan _) items
  have hissued : ∀ l,
      l ∈ ((numbered (firstLoan (r.facts s)) items).filterMap Issued.result?).map Prod.fst ↔
      ∃ target, r.IssuesResult s l target := by
    intro l
    simp only [issuesResult_iff h, List.mem_map, Prod.exists, exists_and_right, exists_eq_right]
  obtain ⟨kept, hkept⟩ : ∃ kept, kept = s.results.filter fun x =>
      x.1 ∉ ((numbered (firstLoan (r.facts s)) items).filterMap Issued.result?).map Prod.fst :=
        ⟨_, rfl⟩
  have hcount : ((r.pass s).1.issued.count : Int) =
      (r.facts s).growth (r.after s).facts + kept.length := by
    rw [h.issued, count_withIssued hkeys, hgrowth, Int.natCast_add, hkept]
  have hmem : ∀ x ∈ s.results, x ∈ kept ↔ ∀ target, ¬ r.IssuesResult s x.1 target := by
    intro x hx
    rw [hkept, List.mem_filter, decide_eq_true_eq, hissued, not_exists]
    exact and_iff_right hx
  have hsublist : List.Sublist kept s.results := hkept ▸ List.filter_sublist
  refine ⟨⟨kept, hsublist, hmem, hcount⟩, ?_, fun hs => ?_⟩
  · have hnone : ((r.pass s).1.issued.count : Int) = (r.facts s).growth (r.after s).facts ↔
        kept = [] := by
      rw [hcount, ← List.length_eq_zero_iff]
      omega
    rw [hnone, List.eq_nil_iff_forall_not_mem]
    constructor
    · intro hnil x hx
      by_contra hnot
      exact hnil x ((hmem x hx).mpr (not_exists.mp hnot))
    · intro hall x hx
      obtain ⟨target, htarget⟩ := hall x (hsublist.subset hx)
      exact (hmem x (hsublist.subset hx)).mp hx target htarget
  · have hall : kept = s.results := by
      rw [hkept]
      refine List.filter_eq_self.mpr fun x hx => ?_
      rw [decide_eq_true_eq, hissued, not_exists]
      exact not_issuesResult_of_isSound hs hx
    rw [hcount, hall]

end Round

/-- The books after a round that has recorded the result of a call. -/
def moveBooks : Books :=
  moveRound.after ⟨moveFacts, []⟩

theorem moveBooks_counts :
    (moveBooks.results.map Prod.fst).Nodup ∧ moveBooks.IsSound ∧
      ((moveRound.pass moveBooks).1.issued.count : Int) =
        (moveRound.facts moveBooks).growth (moveRound.after moveBooks).facts +
          moveBooks.results.length := by
  have hsound : moveBooks.IsSound := Round.isSound_after (Books.isSound_start moveFacts)
  exact ⟨hsound.nodup, hsound,
    (Round.count_eq_growth_add moveRound moveBooks hsound.nodup).2.2 hsound⟩

theorem moveBooks_eq : moveBooks =
    ⟨{ moveFacts with borrowRegion := [(6, 13, 2), (9, 12, 2), (3, 11, 0), (5, 3, 7)] },
      [(12, 2)]⟩ := by
  show (⟨(run moveFacts movePoints moveBody moveOwners).1.facts,
    (run moveFacts movePoints moveBody moveOwners).1.issued.callResults⟩ : Books) = _
  rw [run, eligible_moveFacts]
  rfl

theorem eligible_moveBooks : eligible moveBooks.facts = [(1, [(4, 5)])] := by
  rw [moveBooks_eq]
  cbv

/-- A second round over the same facts succeeds and adds nothing, and still it counts a loan. -/
theorem moveBooks_counted_again :
    (moveRound.pass moveBooks).2 = none ∧
      (moveRound.facts moveBooks).growth (moveRound.after moveBooks).facts = 0 ∧
      (moveRound.pass moveBooks).1.issued.count = 1 := by
  have hpass : moveRound.pass moveBooks =
      run moveBooks.facts movePoints moveBody moveOwners moveBooks.results := rfl
  have hafter : (moveRound.after moveBooks).facts = moveBooks.facts := by
    rw [Round.after, hpass, run, eligible_moveBooks]
    rfl
  have hfacts : moveRound.facts moveBooks = moveBooks.facts := rfl
  refine ⟨?_, ?_, ?_⟩
  · rw [hpass, run, eligible_moveBooks]
    rfl
  · rw [hafter, hfacts, Facts.growth, Int.sub_self]
  · rw [hpass, run, eligible_moveBooks, moveBooks_eq]
    rfl

end Completion
end BorrowGraph
