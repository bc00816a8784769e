/-
The locations of a body, however it was made.

A body is read from a document or put together from blocks, and blocks may be added to it.  All
along its blocks are numbered by their positions, and from this follows how its queries agree:
the list of its locations with the test whether it contains one, and what stands at a location
with the questions about it.

* `IsMade`: bodies and how they come about; `IsMade.isNumbered`: what making and adding
  preserve;
* `IsNumbered.ascending_locations`: the locations are listed in their order;
* `HasStatementAt`, `IsTerminatorAt`: the two kinds of locations;
* `IsConsistent`, `made_consistent`: how the queries of a body agree.
-/
import BorrowGraph.Bundle
import BorrowGraph.Proofs.AnalysisResult
import BorrowGraph.Proofs.BodyQueries
import Mathlib.Logic.Basic

namespace BorrowGraph.Body

/-! ### How bodies are made -/

/-- Bodies that are read or put together from blocks, and then extended block by block. -/
inductive IsMade : Body → Prop
  | read {v : Value} {b : Body} (h : Body.read v = .ok b) : IsMade b
  | ofBlocks {blocks : List Block} {locals : List LocalDecl} {b : Body}
      (h : Body.ofBlocks blocks locals = .ok b) : IsMade b
  | addBlock {b : Body} (h : IsMade b) (statements : List Statement)
      (terminator : Option Terminator) : IsMade (b.addBlock statements terminator)

/-- A block that is added is numbered by its position. -/
theorem IsNumbered.addBlock {b : Body} (h : b.IsNumbered) (statements : List Statement)
    (terminator : Option Terminator) : (b.addBlock statements terminator).IsNumbered := by
  intro i block hblock
  rw [Body.addBlock, List.getElem?_append] at hblock
  split at hblock
  · exact h i block hblock
  · -- Behind the old blocks stands only the new one.
    rename_i hi
    have hlast : i - b.blocks.length = 0 := by
      have hlt := (List.getElem?_eq_some_iff.mp hblock).1
      rw [List.length_singleton] at hlt
      omega
    rw [hlast, List.getElem?_cons_zero, Option.some_inj] at hblock
    subst hblock
    show ((b.blocks.length : Nat) : Int) = i
    omega

theorem isNumbered_read {v : Value} {b : Body} (h : Body.read v = .ok b) : b.IsNumbered := by
  obtain ⟨_, -, h⟩ := bind_eq_ok.mp h
  obtain ⟨_, -, h⟩ := bind_eq_ok.mp h
  obtain ⟨_, -, h⟩ := bind_eq_ok.mp h
  obtain ⟨_, -, h⟩ := bind_eq_ok.mp h
  exact isNumbered_ofBlocks h

theorem IsMade.isNumbered {b : Body} (h : b.IsMade) : b.IsNumbered := by
  induction h with
  | read h => exact isNumbered_read h
  | ofBlocks h => exact isNumbered_ofBlocks h
  | addBlock _ statements terminator ih => exact ih.addBlock statements terminator

theorem misplaced?_eq_none {blocks : List Block} {start : Nat}
    (h : ∀ (i : Nat) (block : Block), blocks[i]? = some block →
      block.index = ((start + i : Nat) : Int)) :
    misplaced? start blocks = none := by
  induction blocks generalizing start with
  | nil => rfl
  | cons block blocks ih =>
    have hfirst : block.index = (start : Int) := h 0 block rfl
    rw [misplaced?, if_pos hfirst]
    refine ih fun i block' hblock' => ?_
    rw [h (i + 1) block' hblock', Nat.add_right_comm, Nat.add_assoc]

/-- Blocks that are numbered by their positions make a body. -/
theorem IsNumbered.ofBlocks_eq {b : Body} (h : b.IsNumbered) :
    ofBlocks b.blocks b.locals = .ok b := by
  have hplaced : misplaced? 0 b.blocks = none :=
    misplaced?_eq_none fun i block hblock => by rw [h i block hblock, Nat.zero_add]
  rw [ofBlocks, hplaced]

/-! ### The order of locations -/

theorem before_iff {l l' : Location} :
    l.before l' = true ↔ l.block < l'.block ∨ l.block = l'.block ∧ l.index < l'.index := by
  simp [Location.before]

/-- The locations are listed in order: block by block, and within a block by their index. -/
theorem IsNumbered.ascending_locations {b : Body} (h : b.IsNumbered) :
    b.locations.Pairwise fun l l' => l.before l' = true := by
  rw [locations, List.pairwise_flatMap]
  constructor
  · intro block _
    rw [Block.locations, List.pairwise_map]
    refine List.pairwise_lt_range.imp fun {i j} hij => ?_
    exact before_iff.mpr (.inr ⟨rfl, Int.ofNat_lt.mpr hij⟩)
  · -- A later block has a greater number, whatever the indices of its locations are.
    rw [List.pairwise_iff_getElem]
    intro i j hi hj hij l hl l' hl'
    rw [mem_locations_block] at hl hl'
    have hi' := h i _ (List.getElem?_eq_getElem hi)
    have hj' := h j _ (List.getElem?_eq_getElem hj)
    exact before_iff.mpr (.inl (by omega))

/-! ### What stands at a location -/

/-- The statement at a location, by the positions of the block and of the statement. -/
def HasStatementAt (b : Body) (l : Location) (st : Statement) : Prop :=
  ∃ block, 0 ≤ l.block ∧ b.blocks[l.block.toNat]? = some block ∧ 0 ≤ l.index ∧
    block.statements[l.index.toNat]? = some st

/-- A location is the one behind the statements of a block. -/
def IsTerminatorAt (b : Body) (l : Location) : Prop :=
  ∃ block ∈ b.blocks, l = block.terminatorLocation

section Queries

variable {b : Body} {l : Location}

theorem HasStatementAt.queries {st : Statement} (h : b.HasStatementAt l st) :
    b.statementAt l = .ok (some st) ∧ b.isTerminatorLocation l = .ok false := by
  obtain ⟨block, hnonneg, hblock, hindex, hst⟩ := h
  have hb : b.block l.block = .ok block := itemAt_of_nonneg hnonneg hblock
  have hitem : BorrowGraph.itemAt block.statements l.index = .ok st := itemAt_of_nonneg hindex hst
  have hlt : l.index < block.statements.length := by
    have := (List.getElem?_eq_some_iff.mp hst).1
    omega
  constructor
  · rw [statementAt, hb]
    simp [hlt, hitem, bind, Except.bind, pure, Except.pure]
  · rw [isTerminatorLocation, hb]
    simp [hlt.ne, bind, Except.bind, pure, Except.pure]

theorem IsTerminatorAt.queries (hb : b.IsNumbered) (h : b.IsTerminatorAt l) :
    b.statementAt l = .ok none ∧ b.isTerminatorLocation l = .ok true := by
  obtain ⟨block, hmem, rfl⟩ := h
  obtain ⟨hnonneg, hget⟩ := hb.mem_blocks hmem
  have hblock : b.block block.terminatorLocation.block = .ok block := itemAt_of_nonneg hnonneg hget
  constructor
  · rw [statementAt, hblock]
    simp [Block.terminatorLocation, bind, Except.bind, pure, Except.pure]
  · rw [isTerminatorLocation, hblock]
    simp [Block.terminatorLocation, bind, Except.bind, pure, Except.pure]

/-- A location of the body is that of a statement or of a terminator. -/
theorem IsNumbered.statement_or_terminator (hb : b.IsNumbered) (h : b.contains l = true) :
    Xor (∃ st, b.HasStatementAt l st) (b.IsTerminatorAt l) := by
  obtain ⟨block, hnonneg, hblock, hindex, hle⟩ := exists_block_of_contains h
  have hnumber : block.index = l.block := by
    rw [hb _ block hblock]
    omega
  -- The two kinds exclude each other, since the queries tell them apart.
  have hnever : ∀ {st}, b.HasStatementAt l st → ¬ b.IsTerminatorAt l := by
    intro st hst hend
    have hanswers := hst.queries.2.symm.trans (hend.queries hb).2
    cases hanswers
  by_cases hlt : l.index < block.statements.length
  · obtain ⟨st, hst⟩ : ∃ st, block.statements[l.index.toNat]? = some st :=
      ⟨_, List.getElem?_eq_getElem (by omega)⟩
    have hhas : b.HasStatementAt l st := ⟨block, hnonneg, hblock, hindex, hst⟩
    exact .inl ⟨⟨st, hhas⟩, hnever hhas⟩
  · have hlast : l.index = block.statements.length := by omega
    have hend : b.IsTerminatorAt l := by
      refine ⟨block, List.mem_of_getElem? hblock, ?_⟩
      rw [Block.terminatorLocation, hnumber, ← hlast]
    exact .inr ⟨hend, fun ⟨_, hst⟩ => hnever hst hend⟩

/-- A call stands behind the statements of its block, also where the block is counted from the
end. -/
theorem exists_block_of_isCall (h : b.isCall l = .ok true) :
    ∃ block, b.block l.block = .ok block ∧ l.index = block.statements.length := by
  rw [isCall, isTerminatorLocation] at h
  rcases hblock : b.block l.block with e | block
  · rw [hblock] at h
    cases h
  · refine ⟨block, rfl, ?_⟩
    by_contra hne
    rw [hblock] at h
    simp [hne, bind, Except.bind, pure, Except.pure] at h

theorem isAssignment_of_isCall (h : b.isCall l = .ok true) : b.isAssignment l = .ok false := by
  obtain ⟨block, hblock, hindex⟩ := exists_block_of_isCall h
  rw [isAssignment, statementAt, hblock]
  simp [hindex, bind, Except.bind, pure, Except.pure]

/-- Asking where a call puts its result is refused exactly where there is no call. -/
theorem callDestination_refused_iff {c : Bool} (h : b.isCall l = .ok c) :
    (∃ e, b.callDestination l = .error e) ↔ c = false := by
  rw [callDestination, h]
  cases c with
  | false => exact iff_of_true ⟨_, rfl⟩ rfl
  | true =>
    obtain ⟨block, hblock, -⟩ := exists_block_of_isCall h
    rw [hblock]
    refine iff_of_false ?_ (by decide)
    rintro ⟨e, he⟩
    cases he

end Queries

/-! ### How the queries agree -/

/-- The queries of a body agree. -/
structure IsConsistent (b : Body) : Prop where
  /-- Blocks are numbered by their positions, so that they can be put together again. -/
  numbered : b.IsNumbered
  rebuilt : ofBlocks b.blocks b.locals = .ok b
  /-- The locations that the body contains are listed in order, each once. -/
  ascending : b.locations.Pairwise fun l l' => l.before l' = true
  nodup : b.locations.Nodup
  mem_locations : ∀ l, l ∈ b.locations ↔ b.contains l = true
  /-- At each of them stands a statement or a terminator, and not both. -/
  kinds : ∀ l, b.contains l = true → Xor (∃ st, b.HasStatementAt l st) (b.IsTerminatorAt l)
  statement : ∀ l st, b.HasStatementAt l st →
    b.statementAt l = .ok (some st) ∧ b.isTerminatorLocation l = .ok false
  terminator : ∀ l, b.IsTerminatorAt l →
    b.statementAt l = .ok none ∧ b.isTerminatorLocation l = .ok true
  /-- Nothing is both an assignment and a call. -/
  exclusive : ∀ l, ¬ (b.isAssignment l = .ok true ∧ b.isCall l = .ok true)
  /-- All questions about a location of the body are answered. -/
  answers : ∀ l, b.contains l = true → (∃ st, b.statementAt l = .ok st) ∧
    (∃ c, b.isTerminatorLocation l = .ok c) ∧ (∃ c, b.isAssignment l = .ok c) ∧
    ∃ c, b.isCall l = .ok c
  /-- Where a call puts its result is asked in vain exactly where there is no call. -/
  destination : ∀ l c, b.isCall l = .ok c → ((∃ e, b.callDestination l = .error e) ↔ c = false)

/-- However a body is made, its queries agree. -/
theorem made_consistent {b : Body} (h : b.IsMade) : b.IsConsistent where
  numbered := h.isNumbered
  rebuilt := h.isNumbered.ofBlocks_eq
  ascending := h.isNumbered.ascending_locations
  nodup := h.isNumbered.nodup_locations
  mem_locations _ := h.isNumbered.mem_locations_iff
  kinds _ hl := h.isNumbered.statement_or_terminator hl
  statement _ _ hst := hst.queries
  terminator _ hend := hend.queries h.isNumbered
  exclusive l := by
    rintro ⟨hassignment, hcall⟩
    rw [isAssignment_of_isCall hcall] at hassignment
    cases hassignment
  answers l hl := by
    have hkind : (∃ st, b.statementAt l = .ok st) ∧ ∃ c, b.isTerminatorLocation l = .ok c := by
      rcases h.isNumbered.statement_or_terminator hl with ⟨⟨st, hst⟩, -⟩ | ⟨hend, -⟩
      · exact ⟨⟨_, hst.queries.1⟩, _, hst.queries.2⟩
      · exact ⟨⟨_, (hend.queries h.isNumbered).1⟩, _, (hend.queries h.isNumbered).2⟩
    obtain ⟨block, hnonneg, hblock, hindex, -⟩ := exists_block_of_contains hl
    exact ⟨hkind.1, hkind.2, ⟨_, isAssignment_eq hnonneg hblock hindex⟩, _,
      isCall_eq hnonneg hblock⟩
  destination _ _ hcall := callDestination_refused_iff hcall

/-- A block that assigns and calls. -/
def callingDocument : Value :=
  .table [("basic_blocks", .list [.table [
    ("statements", .list [.table [("kind", .text "assign")]]),
    ("terminator", .table [("kind", .text "call")])]])]

/-- The body that is read from it. -/
def callingBody : Body :=
  ⟨[⟨0, [⟨.assign, "", none⟩], some { kind := .call }⟩], []⟩

/-- A block with nothing in it, and one more. -/
def grownBody : Body :=
  (callingBody.addBlock [] none).addBlock [⟨.nop, "", none⟩] (some { kind := .return })

theorem grownBody_consistent :
    grownBody.IsMade ∧ grownBody.locations = [⟨0, 0⟩, ⟨0, 1⟩, ⟨1, 0⟩, ⟨2, 0⟩, ⟨2, 1⟩] ∧
      grownBody.IsConsistent := by
  have hread : Body.read callingDocument = .ok callingBody := rfl
  have hmade : grownBody.IsMade := .addBlock (.addBlock (.read hread) _ _) _ _
  exact ⟨hmade, by decide, made_consistent hmade⟩

end BorrowGraph.Body
