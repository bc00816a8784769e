/-
What stands at a location of a body.

The queries of a body may fail, since blocks and statements are asked for by any numbers.  At a
location that the body contains none of them does: each answers what stands there, a call
(`IsCallAt`), an assignment (`IsAssignmentAt`) or something else.
-/
import BorrowGraph.Body
import Mathlib.Data.List.Basic

namespace BorrowGraph

namespace Body

/-- The terminator at a location is a call with the given destination. -/
def IsCallAt (b : Body) (l : Location) (destination : Option Place) : Prop :=
  ∃ block t, 0 ≤ l.block ∧ b.blocks[l.block.toNat]? = some block ∧
    l.index = block.statements.length ∧ block.terminator = some t ∧ t.kind = .call ∧
    destination = t.destination

/-- The statement at a location is an assignment. -/
def IsAssignmentAt (b : Body) (l : Location) : Prop :=
  ∃ block st, 0 ≤ l.block ∧ b.blocks[l.block.toNat]? = some block ∧ 0 ≤ l.index ∧
    block.statements[l.index.toNat]? = some st ∧ st.kind = .assign

theorem IsCallAt.unique {b : Body} {l : Location} {d d' : Option Place} (h : b.IsCallAt l d)
    (h' : b.IsCallAt l d') : d = d' := by
  obtain ⟨block, t, -, hblock, -, ht, -, rfl⟩ := h
  obtain ⟨block', t', -, hblock', -, ht', -, rfl⟩ := h'
  rw [hblock, Option.some_inj] at hblock'
  subst hblock'
  rw [ht, Option.some_inj] at ht'
  rw [ht']

theorem IsCallAt.not_isAssignmentAt {b : Body} {l : Location} {d : Option Place}
    (h : b.IsCallAt l d) : ¬ b.IsAssignmentAt l := by
  obtain ⟨block, t, -, hblock, hindex, -⟩ := h
  rintro ⟨block', st, -, hblock', -, hst, -⟩
  rw [hblock, Option.some_inj] at hblock'
  subst hblock'
  have hlt := (List.getElem?_eq_some_iff.mp hst).1
  omega

/-- A location of the body lies in a block. -/
theorem exists_block_of_contains {b : Body} {l : Location} (h : b.contains l = true) :
    ∃ block, 0 ≤ l.block ∧ b.blocks[l.block.toNat]? = some block ∧ 0 ≤ l.index ∧
      l.index ≤ block.statements.length := by
  rw [contains] at h
  split at h
  · simp at h
  · rename_i hneg
    split at h
    · simp at h
    · rename_i block hblock
      rw [Bool.and_eq_true, decide_eq_true_eq, decide_eq_true_eq] at h
      exact ⟨block, Int.not_lt.mp hneg, hblock, h.1, h.2⟩

theorem itemAt_of_nonneg {α : Type} {items : List α} {i : Int} {a : α} (hi : 0 ≤ i)
    (h : items[i.toNat]? = some a) : BorrowGraph.itemAt items i = .ok a := by
  have hnot : ¬ i < 0 := Int.not_lt.mpr hi
  simp only [BorrowGraph.itemAt, hnot, if_false, h]

section AtLocation

variable {b : Body} {l : Location} {block : Block}

theorem isCall_eq (hnonneg : 0 ≤ l.block) (hblock : b.blocks[l.block.toNat]? = some block) :
    b.isCall l = .ok (decide (l.index = block.statements.length) && block.endsInCall) := by
  have hb : b.block l.block = .ok block := itemAt_of_nonneg hnonneg hblock
  rw [isCall, isTerminatorLocation, hb]
  by_cases hindex : l.index = block.statements.length
  · simp [hindex, bind, Except.bind, pure, Except.pure]
  · simp [hindex, bind, Except.bind, pure, Except.pure]

theorem callDestination_eq (hnonneg : 0 ≤ l.block)
    (hblock : b.blocks[l.block.toNat]? = some block) (hcall : b.isCall l = .ok true) :
    b.callDestination l = .ok (block.terminator.bind Terminator.destination) := by
  have hb : b.block l.block = .ok block := itemAt_of_nonneg hnonneg hblock
  rw [callDestination, hcall, hb]
  rfl

theorem isAssignment_eq (hnonneg : 0 ≤ l.block)
    (hblock : b.blocks[l.block.toNat]? = some block) (hindex : 0 ≤ l.index) :
    b.isAssignment l = .ok ((block.statements[l.index.toNat]?).any fun st =>
      decide (st.kind = .assign)) := by
  have hb : b.block l.block = .ok block := itemAt_of_nonneg hnonneg hblock
  rw [isAssignment, statementAt, hb]
  by_cases hlt : l.index < block.statements.length
  · obtain ⟨st, hst⟩ : ∃ st, block.statements[l.index.toNat]? = some st :=
      ⟨_, List.getElem?_eq_getElem (by omega)⟩
    have hi : BorrowGraph.itemAt block.statements l.index = .ok st := itemAt_of_nonneg hindex hst
    simp [hlt, hi, hst, bind, Except.bind, pure, Except.pure]
  · have hnone : block.statements[l.index.toNat]? = none :=
      List.getElem?_eq_none (by omega)
    simp [hlt, hnone, bind, Except.bind, pure, Except.pure]

/-- A location of the body is that of a call, of an assignment or of something else, and the queries
tell which. -/
theorem contains_cases (h : b.contains l = true) :
    (∃ d, b.IsCallAt l d ∧ b.isCall l = .ok true ∧ b.callDestination l = .ok d) ∨
      (b.IsAssignmentAt l ∧ b.isCall l = .ok false ∧ b.isAssignment l = .ok true) ∨
      ((∀ d, ¬ b.IsCallAt l d) ∧ ¬ b.IsAssignmentAt l ∧ b.isCall l = .ok false ∧
        b.isAssignment l = .ok false) := by
  obtain ⟨block, hnonneg, hblock, hindex, hle⟩ := exists_block_of_contains h
  have hcall := isCall_eq hnonneg hblock
  have hassign := isAssignment_eq hnonneg hblock hindex
  have hnotcall : b.isCall l = .ok false → ∀ d, ¬ b.IsCallAt l d := by
    rintro hfalse d ⟨block', t, -, hblock', hend, ht, hkind, -⟩
    rw [hblock, Option.some_inj] at hblock'
    subst hblock'
    rw [hcall, hend] at hfalse
    simp [Block.endsInCall, ht, hkind] at hfalse
  have hnotassign : b.isAssignment l = .ok false → ¬ b.IsAssignmentAt l := by
    rintro hfalse ⟨block', st, -, hblock', -, hst, hkind⟩
    rw [hblock, Option.some_inj] at hblock'
    subst hblock'
    rw [hassign, hst] at hfalse
    simp [hkind] at hfalse
  by_cases hc : b.isCall l = .ok true
  · left
    have htrue := hc
    rw [hcall, Except.ok.injEq, Bool.and_eq_true, decide_eq_true_eq, Block.endsInCall] at htrue
    obtain ⟨hend, hkind⟩ := htrue
    have hdest := callDestination_eq hnonneg hblock hc
    rcases ht : block.terminator with _ | t
    · rw [ht] at hkind
      simp at hkind
    · rw [ht] at hkind hdest
      exact ⟨t.destination, ⟨block, t, hnonneg, hblock, hend, ht, by simpa using hkind, rfl⟩, hc,
        hdest⟩
  · have hc' : b.isCall l = .ok false := by
      rw [hcall, Except.ok.injEq, Bool.not_eq_true] at hc
      rw [hcall, hc]
    by_cases ha : b.isAssignment l = .ok true
    · right
      left
      refine ⟨?_, hc', ha⟩
      rw [hassign, Except.ok.injEq, Option.any_eq_true] at ha
      obtain ⟨st, hst, hkind⟩ := ha
      exact ⟨block, st, hnonneg, hblock, hindex, hst, by simpa using hkind⟩
    · have ha' : b.isAssignment l = .ok false := by
        rw [hassign, Except.ok.injEq, Bool.not_eq_true] at ha
        rw [hassign, ha]
      exact .inr (.inr ⟨hnotcall hc', hnotassign ha', hc', ha'⟩)

end AtLocation

end Body

end BorrowGraph
