/-
Facts under other names.

Points are known by numbers, and loans that were issued by completion are, too.  Facts that
differ in these names only (`Facts.Renamed`) have the same consequences under the other names:

* `exists_renumbering`: two orders of the same things give a renaming of their numbers;
* `Matches`, `saturate_matches`: saturation of relations that match each other goes on in step,
  so both runs need the same number of rounds;
* `solve_renamed`: the solver answers both facts or neither, and the same loans are live, under
  the other names.
-/
import BorrowGraph.Proofs.LeastModel
import Mathlib.Data.List.Nodup
import Mathlib.Logic.Equiv.Prod

namespace BorrowGraph

/-! ### Numbers in two orders -/

section Renumber

variable {α β : Type} [BEq α] [LawfulBEq α] [BEq β] [LawfulBEq β] {first : Int} {xs : List α}
  {ys : List β}

/-- The number that what has a number in one list has, under another name, in another list. -/
def renumber (e : α → β) (first : Int) (xs : List α) (ys : List β) (n : Int) : Int :=
  if n < first then n
  else ((xs[(n - first).toNat]?).map fun a => first + (ys.idxOf (e a) : Nat)).getD n

omit [LawfulBEq β] in
theorem renumber_idxOf {e : α → β} {a : α} (ha : a ∈ xs) :
    renumber e first xs ys (first + (xs.idxOf a : Nat)) = first + (ys.idxOf (e a) : Nat) := by
  have hindex : (first + (xs.idxOf a : Nat) - first).toNat = xs.idxOf a := by omega
  rw [renumber, if_neg (by omega), hindex, List.getElem?_idxOf ha]
  rfl

omit [BEq α] [LawfulBEq α] [LawfulBEq β] in
theorem renumber_outside {e : α → β} {n : Int}
    (hn : n < first ∨ first + (xs.length : Nat) ≤ n) : renumber e first xs ys n = n := by
  rw [renumber]
  split
  · rfl
  · rw [List.getElem?_eq_none (by omega)]
    rfl

omit [BEq β] [LawfulBEq β] in
/-- A number belongs to a member of the list, or to none. -/
theorem exists_idxOf_or (first : Int) (hxs : xs.Nodup) (n : Int) :
    (∃ a ∈ xs, n = first + (xs.idxOf a : Nat)) ∨ n < first ∨ first + (xs.length : Nat) ≤ n := by
  by_cases hn : n < first ∨ first + (xs.length : Nat) ≤ n
  · exact .inr hn
  · have hlt : (n - first).toNat < xs.length := by omega
    refine .inl ⟨xs[(n - first).toNat], List.getElem_mem hlt, ?_⟩
    rw [hxs.idxOf_getElem]
    omega

variable {e : α ≃ β}

omit [BEq α] [LawfulBEq α] [BEq β] [LawfulBEq β] in
/-- Lists without repetitions that have the same members, up to a renaming, have the same length. -/
theorem perm_map_of_mem_iff (hxs : xs.Nodup) (hys : ys.Nodup) (h : ∀ a, e a ∈ ys ↔ a ∈ xs) :
    (xs.map e).Perm ys := by
  refine (List.perm_ext_iff_of_nodup (hxs.map e.injective) hys).mpr fun b => ?_
  obtain ⟨a, rfl⟩ := e.surjective b
  rw [List.mem_map_of_injective e.injective, h]

theorem renumber_renumber (hxs : xs.Nodup) (hys : ys.Nodup) (h : ∀ a, e a ∈ ys ↔ a ∈ xs)
    (n : Int) : renumber e.symm first ys xs (renumber e first xs ys n) = n := by
  have hlength : xs.length = ys.length := by
    rw [← (perm_map_of_mem_iff hxs hys h).length_eq, List.length_map]
  rcases exists_idxOf_or first hxs n with ⟨a, ha, rfl⟩ | hn
  · rw [renumber_idxOf ha, renumber_idxOf ((h a).mpr ha), e.symm_apply_apply]
  · rw [renumber_outside hn, renumber_outside (hlength ▸ hn)]

/-- Two orders of the same things give a renaming of their numbers, which leaves all other
numbers alone. -/
theorem exists_renumbering (first : Int) (hxs : xs.Nodup) (hys : ys.Nodup)
    (h : ∀ a, e a ∈ ys ↔ a ∈ xs) :
    ∃ ρ : Equiv.Perm Int,
      (∀ a ∈ xs, ρ (first + (xs.idxOf a : Nat)) = first + (ys.idxOf (e a) : Nat)) ∧
      ∀ n, n < first ∨ first + (xs.length : Nat) ≤ n → ρ n = n := by
  have hsymm : ∀ b, e.symm b ∈ xs ↔ b ∈ ys := by
    intro b
    rw [← h, e.apply_symm_apply]
  refine ⟨⟨renumber e first xs ys, renumber e.symm first ys xs, renumber_renumber hxs hys h,
    fun n => ?_⟩, fun _ ha => renumber_idxOf ha, fun _ hn => renumber_outside hn⟩
  exact renumber_renumber (e := e.symm) hys hxs hsymm n

end Renumber

/-! ### Renamed facts -/

/-- Facts that are the same up to the names of points and loans. -/
structure Facts.Renamed (π : Equiv.Perm PointIndex) (σ : Equiv.Perm Loan) (f g : Facts) : Prop where
  borrowRegion : ∀ r l p, (r, σ l, π p) ∈ g.borrowRegion ↔ (r, l, p) ∈ f.borrowRegion
  universalRegion : ∀ r, r ∈ g.universalRegion ↔ r ∈ f.universalRegion
  outlives : ∀ r₁ r₂ p, (r₁, r₂, π p) ∈ g.outlives ↔ (r₁, r₂, p) ∈ f.outlives
  regionLiveAt : ∀ r p, (r, π p) ∈ g.regionLiveAt ↔ (r, p) ∈ f.regionLiveAt
  cfgEdge : ∀ p q, (π p, π q) ∈ g.cfgEdge ↔ (p, q) ∈ f.cfgEdge
  killed : ∀ l p, (σ l, π p) ∈ g.killed ↔ (l, p) ∈ f.killed
  invalidates : ∀ p l, (π p, σ l) ∈ g.invalidates ↔ (p, l) ∈ f.invalidates

/-! ### Saturation in step -/

namespace Liveness

/-- Two runs that end alike, or are broken off in the same round. -/
inductive InPace {α β : Type} (r : α → β → Prop) : Except Nat α → Except Nat β → Prop where
  | ended {a : α} {b : β} (h : r a b) : InPace r (.ok a) (.ok b)
  | brokenOff (rounds : Nat) : InPace r (.error rounds) (.error rounds)

/-- Lists with the same members, up to a renaming. -/
def Matches {α : Type} (e : α ≃ α) (xs ys : List α) : Prop :=
  ∀ a, e a ∈ ys ↔ a ∈ xs

section Matches

variable {α : Type} {e : α ≃ α} {xs ys xs' ys' : List α}

theorem Matches.append (h : Matches e xs ys) (h' : Matches e xs' ys') :
    Matches e (xs ++ xs') (ys ++ ys') := by
  intro a
  rw [List.mem_append, List.mem_append, h a, h' a]

theorem Matches.eq_nil_iff (h : Matches e xs ys) : xs = [] ↔ ys = [] := by
  simp only [List.eq_nil_iff_forall_not_mem]
  constructor
  · intro hxs b hb
    rw [← e.apply_symm_apply b, h] at hb
    exact hxs _ hb
  · intro hys a ha
    exact hys _ ((h a).mpr ha)

variable [DecidableEq α] {join join' : List α → List α → List α}

theorem Matches.fresh (hjoin : ∀ {known known' delta delta'}, Matches e known known' →
      Matches e delta delta' → Matches e (join known delta) (join' known' delta'))
    (h : Matches e xs ys) (h' : Matches e xs' ys') :
    Matches e (fresh join xs xs') (fresh join' ys ys') := by
  intro a
  rw [mem_fresh, mem_fresh, hjoin h h' a, h a]

/-- Runs of saturation go on in step. -/
theorem saturate_matches (hjoin : ∀ {known known' delta delta'}, Matches e known known' →
      Matches e delta delta' → Matches e (join known delta) (join' known' delta'))
    (allowed : Nat) {known known' delta delta' : List α} (hknown : Matches e known known')
    (hdelta : Matches e delta delta') :
    InPace (fun s s' => s.rounds = s'.rounds ∧ Matches e s.tuples s'.tuples)
      (saturate join allowed known delta) (saturate join' allowed known' delta') := by
  induction allowed generalizing known known' delta delta' with
  | zero =>
    rcases delta with _ | ⟨t, delta⟩
    · rw [hdelta.eq_nil_iff.mp rfl, saturate_nil, saturate_nil]
      exact .ended ⟨rfl, hknown⟩
    · rcases delta' with _ | ⟨t', delta'⟩
      · exact absurd (hdelta.eq_nil_iff.mpr rfl) (by simp)
      · rw [saturate, saturate]
        exact .brokenOff 1
  | succ allowed ih =>
    rcases delta with _ | ⟨t, delta⟩
    · rw [hdelta.eq_nil_iff.mp rfl, saturate_nil, saturate_nil]
      exact .ended ⟨rfl, hknown⟩
    · rcases delta' with _ | ⟨t', delta'⟩
      · exact absurd (hdelta.eq_nil_iff.mpr rfl) (by simp)
      · -- What is new in a round is new in both runs, so neither stops before the other.
        have hfresh := Matches.fresh hjoin hknown hdelta
        have hrest := ih (hknown.append hfresh) hfresh
        rw [saturate_cons, saturate_cons]
        generalize saturate join allowed _ _ = x at hrest ⊢
        generalize saturate join' allowed _ _ = y at hrest ⊢
        cases hrest with
        | ended hs => exact .ended ⟨congrArg (· + 1) hs.1, hs.2⟩
        | brokenOff rounds => exact .brokenOff (rounds + 1)

end Matches

/-! ### The answer for renamed facts -/

section Answer

variable {π : Equiv.Perm PointIndex} {σ : Equiv.Perm Loan} {f g : Facts}

/-- The names of a tuple of `Subset`. -/
def renameSubset (π : Equiv.Perm PointIndex) :
    Region × Region × PointIndex ≃ Region × Region × PointIndex :=
  (Equiv.refl _).prodCongr ((Equiv.refl _).prodCongr π)

/-- The names of a tuple of `Requires`. -/
def renameRequires (π : Equiv.Perm PointIndex) (σ : Equiv.Perm Loan) :
    Region × Loan × PointIndex ≃ Region × Loan × PointIndex :=
  (Equiv.refl _).prodCongr (σ.prodCongr π)

theorem matches_eraseDups {α : Type} [BEq α] [LawfulBEq α] {e : α ≃ α} {xs ys : List α}
    (h : Matches e xs ys) : Matches e xs.eraseDups ys.eraseDups := by
  intro a
  rw [List.mem_eraseDups, List.mem_eraseDups, h a]

variable (h : Facts.Renamed π σ f g)
include h

theorem joinSubset_matches {known known' delta delta' : List (Region × Region × PointIndex)}
    (hknown : Matches (renameSubset π) known known')
    (hdelta : Matches (renameSubset π) delta delta') :
    Matches (renameSubset π) (joinSubset f known delta) (joinSubset g known' delta') := by
  have hknown' : ∀ r₁ r₂ p, (r₁, r₂, π p) ∈ known' ↔ (r₁, r₂, p) ∈ known :=
    fun r₁ r₂ p => hknown (r₁, r₂, p)
  have hdelta' : ∀ r₁ r₂ p, (r₁, r₂, π p) ∈ delta' ↔ (r₁, r₂, p) ∈ delta :=
    fun r₁ r₂ p => hdelta (r₁, r₂, p)
  rintro ⟨a, b, q⟩
  show (a, b, π q) ∈ _ ↔ _
  rw [mem_joinSubset, mem_joinSubset]
  constructor
  · rintro (⟨r₁, r₂, r₃, p', hmem, heq⟩ | ⟨r₁, r₂, p', q', hd, he, h₁, h₂, heq⟩)
    · simp only [Prod.mk.injEq] at heq
      obtain ⟨rfl, rfl, rfl⟩ := heq
      rw [hdelta', hknown', hknown', hdelta'] at hmem
      exact .inl ⟨a, r₂, b, q, hmem, rfl⟩
    · -- Each point is the new name of one point.
      obtain ⟨p, rfl⟩ := π.surjective p'
      simp only [Prod.mk.injEq] at heq
      obtain ⟨rfl, rfl, rfl⟩ := heq
      exact .inr ⟨a, b, p, q, (hdelta' _ _ _).mp hd, (h.cfgEdge _ _).mp he,
        (h.regionLiveAt _ _).mp h₁, (h.regionLiveAt _ _).mp h₂, rfl⟩
  · rintro (⟨r₁, r₂, r₃, p, hmem, heq⟩ | ⟨r₁, r₂, p, q', hd, he, h₁, h₂, heq⟩)
    · simp only [Prod.mk.injEq] at heq
      obtain ⟨rfl, rfl, rfl⟩ := heq
      rw [← hdelta', ← hknown', ← hknown', ← hdelta'] at hmem
      exact .inl ⟨a, r₂, b, π q, hmem, rfl⟩
    · simp only [Prod.mk.injEq] at heq
      obtain ⟨rfl, rfl, rfl⟩ := heq
      exact .inr ⟨a, b, π p, π q, (hdelta' _ _ _).mpr hd, (h.cfgEdge _ _).mpr he,
        (h.regionLiveAt _ _).mpr h₁, (h.regionLiveAt _ _).mpr h₂, rfl⟩

theorem joinRequires_matches {subset subset' : List (Region × Region × PointIndex)}
    {delta delta' : List (Region × Loan × PointIndex)}
    (hsubset : Matches (renameSubset π) subset subset')
    (hdelta : Matches (renameRequires π σ) delta delta') :
    Matches (renameRequires π σ) (joinRequires f subset delta) (joinRequires g subset' delta') := by
  have hsubset' : ∀ r₁ r₂ p, (r₁, r₂, π p) ∈ subset' ↔ (r₁, r₂, p) ∈ subset :=
    fun r₁ r₂ p => hsubset (r₁, r₂, p)
  have hdelta' : ∀ r l p, (r, σ l, π p) ∈ delta' ↔ (r, l, p) ∈ delta :=
    fun r l p => hdelta (r, l, p)
  rintro ⟨a, l, q⟩
  show (a, σ l, π q) ∈ _ ↔ _
  rw [mem_joinRequires, mem_joinRequires]
  constructor
  · rintro (⟨r₁, r₂, l', p', hd, hs, heq⟩ | ⟨r, l', p', q', hd, hk, he, hl, heq⟩)
    · simp only [Prod.mk.injEq] at heq
      obtain ⟨rfl, rfl, rfl⟩ := heq
      exact .inl ⟨r₁, a, l, q, (hdelta' _ _ _).mp hd, (hsubset' _ _ _).mp hs, rfl⟩
    · obtain ⟨p, rfl⟩ := π.surjective p'
      simp only [Prod.mk.injEq] at heq
      obtain ⟨rfl, rfl, rfl⟩ := heq
      exact .inr ⟨a, l, p, q, (hdelta' _ _ _).mp hd, mt (h.killed _ _).mpr hk,
        (h.cfgEdge _ _).mp he, (h.regionLiveAt _ _).mp hl, rfl⟩
  · rintro (⟨r₁, r₂, l', p, hd, hs, heq⟩ | ⟨r, l', p, q', hd, hk, he, hl, heq⟩)
    · simp only [Prod.mk.injEq] at heq
      obtain ⟨rfl, rfl, rfl⟩ := heq
      exact .inl ⟨r₁, a, σ l, π q, (hdelta' _ _ _).mpr hd, (hsubset' _ _ _).mpr hs, rfl⟩
    · simp only [Prod.mk.injEq] at heq
      obtain ⟨rfl, rfl, rfl⟩ := heq
      exact .inr ⟨a, σ l, π p, π q, (hdelta' _ _ _).mpr hd, mt (h.killed _ _).mp hk,
        (h.cfgEdge _ _).mpr he, (h.regionLiveAt _ _).mpr hl, rfl⟩

/-- The relations of renamed facts are the renamed relations, found in as many rounds. -/
theorem relations_renamed (allowed : Nat) :
    InPace (fun x y => Matches (renameRequires π σ) x.2.tuples y.2.tuples)
      (relations f allowed) (relations g allowed) := by
  have hsubset := saturate_matches (fun hknown hdelta => joinSubset_matches h hknown hdelta) allowed
    (matches_eraseDups (e := renameSubset π) fun t => h.outlives t.1 t.2.1 t.2.2)
    (matches_eraseDups (e := renameSubset π) fun t => h.outlives t.1 t.2.1 t.2.2)
  rw [relations, relations]
  generalize saturate (joinSubset f) allowed _ _ = x at hsubset ⊢
  generalize saturate (joinSubset g) allowed _ _ = y at hsubset ⊢
  cases hsubset with
  | brokenOff rounds => exact .brokenOff rounds
  | @ended s s' hs =>
    have hrequires := saturate_matches
      (fun _ hdelta => joinRequires_matches h hs.2 hdelta) (allowed - s.rounds)
      (matches_eraseDups (e := renameRequires π σ) fun t => h.borrowRegion t.1 t.2.1 t.2.2)
      (matches_eraseDups (e := renameRequires π σ) fun t => h.borrowRegion t.1 t.2.1 t.2.2)
    simp only [← hs.1]
    generalize saturate (fun _ => joinRequires f s.tuples) _ _ _ = x at hrequires ⊢
    generalize saturate (fun _ => joinRequires g s'.tuples) _ _ _ = y at hrequires ⊢
    cases hrequires with
    | brokenOff rounds => exact .brokenOff (s.rounds + rounds)
    | ended hr => exact .ended hr.2

/-- **The solver does not depend on names.**  It answers both facts or neither, and the same
loans are live. -/
theorem solve_renamed (bound : Int) :
    (∃ e e', (solve f bound).result = .error e ∧ (solve g bound).result = .error e') ∨
      ∃ o o', (solve f bound).result = .ok o ∧ (solve g bound).result = .ok o' ∧
        ∀ p l, σ l ∈ o'.liveAt (π p) ↔ l ∈ o.liveAt p := by
  have hrelations := relations_renamed h bound.toNat
  rw [solve, solve]
  generalize relations f bound.toNat = x at hrelations ⊢
  generalize relations g bound.toNat = y at hrelations ⊢
  cases hrelations with
  | brokenOff rounds => exact .inl ⟨_, _, rfl, rfl⟩
  | @ended s s' hs =>
    refine .inr ⟨_, _, rfl, rfl, fun p l => ?_⟩
    rw [Output.liveAt_eq_entry, Output.liveAt_eq_entry, answer, answer, mem_entry_group,
      mem_entry_group, mem_livePairs, mem_livePairs]
    exact exists_congr fun r => and_congr (hs (r, l, p)) (h.regionLiveAt r p)

end Answer

end Liveness
end BorrowGraph
