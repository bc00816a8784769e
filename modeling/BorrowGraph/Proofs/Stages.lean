/-
Saturation runs in step with naive evaluation.

Naive evaluation starts from nothing and applies all rules to all tuples, again and again;
`stage rule base k` is what it holds after `k` steps.  Saturation joins only the tuples that
are new.  Still it adds in each round exactly what the next stage adds:

* `InStep`, the invariant of the rounds: what is known is a stage, and what is new is not in
  the stage before;
* `InStep.start`, `InStep.next`, `inStep_rounds`: it holds at first, one round keeps it, and so
  it holds after any number of rounds;
* `saturate_eq`: a run ends with the first round after which nothing is new;
* `saturate_of_stableAt`: so a run needs as many rounds as naive evaluation needs to become
  stable, and it fails exactly when fewer are allowed.

A stage that is not stable has fewer tuples than the next one.  Where only finitely many tuples
are derivable this bounds the number of rounds (`exists_stableAt`, `StableAt.le_ncard`).
-/
import BorrowGraph.Proofs.Saturation
import Mathlib.Data.Set.Card
import Mathlib.Logic.Function.Iterate

namespace BorrowGraph.Liveness

variable {α : Type}

/-! ### Naive evaluation -/

/-- What follows in one step from the given tuples: all base tuples, and all conclusions of the
rule whose premises are given. -/
def consequences (rule : Rule α) (base : α → Prop) (given : Set α) : Set α :=
  {t | base t ∨ ∃ premises, (∀ u ∈ premises, u ∈ given) ∧ rule premises t}

/-- Naive evaluation from nothing. -/
def stage (rule : Rule α) (base : α → Prop) : Nat → Set α
  | 0 => ∅
  | k + 1 => consequences rule base (stage rule base k)

/-- Naive evaluation is stable at this stage, and at none before. -/
def StableAt (rule : Rule α) (base : α → Prop) (k : Nat) : Prop :=
  IsLeast {n | stage rule base n = stage rule base (n + 1)} k

section Stages

variable {rule : Rule α} {base : α → Prop}

theorem consequences_mono {given given' : Set α} (h : given ⊆ given') :
    consequences rule base given ⊆ consequences rule base given' := by
  rintro t (hb | ⟨premises, hp, hr⟩)
  · exact .inl hb
  · exact .inr ⟨premises, fun u hu => h (hp u hu), hr⟩

theorem stage_subset_succ (k : Nat) : stage rule base k ⊆ stage rule base (k + 1) := by
  induction k with
  | zero => exact Set.empty_subset _
  | succ k ih => exact consequences_mono ih

theorem derivable_of_mem_stage {k : Nat} {t : α} (h : t ∈ stage rule base k) :
    Derivable rule base t := by
  induction k generalizing t with
  | zero => exact absurd h (Set.notMem_empty t)
  | succ k ih =>
    rcases h with hb | ⟨premises, hp, hr⟩
    · exact .base hb
    · exact .step (fun u hu => ih (hp u hu)) hr

/-- A stable stage holds all that is derivable. -/
theorem stage_eq_of_stable {k : Nat} (h : stage rule base k = stage rule base (k + 1)) :
    stage rule base k = {t | Derivable rule base t} := by
  refine Set.Subset.antisymm (fun t ht => derivable_of_mem_stage ht) fun t ht => ?_
  induction ht with
  | base hb =>
    rw [h]
    exact .inl hb
  | step _ hr ih =>
    rw [h]
    exact .inr ⟨_, ih, hr⟩

/-- As long as no stage is stable, each one has more tuples than the one before. -/
theorem le_ncard_stage (hfin : {t | Derivable rule base t}.Finite) {k : Nat}
    (h : ∀ j < k, stage rule base j ≠ stage rule base (j + 1)) :
    k ≤ (stage rule base k).ncard := by
  induction k with
  | zero => exact Nat.zero_le _
  | succ k ih =>
    have hle : k ≤ (stage rule base k).ncard := ih fun j hj => h j (Nat.lt_succ_of_lt hj)
    have hlt : (stage rule base k).ncard < (stage rule base (k + 1)).ncard := by
      refine Set.ncard_lt_ncard ?_ (hfin.subset fun t ht => derivable_of_mem_stage ht)
      exact (stage_subset_succ k).ssubset_of_ne (h k (Nat.lt_succ_self k))
    omega

/-- There are at most as many steps as there are derivable tuples. -/
theorem StableAt.le_ncard (hfin : {t | Derivable rule base t}.Finite) {k : Nat}
    (h : StableAt rule base k) : k ≤ {t | Derivable rule base t}.ncard := by
  rw [← stage_eq_of_stable h.1]
  exact le_ncard_stage hfin fun j hj hstable => absurd (h.2 hstable) (Nat.not_le.mpr hj)

/-- Where only finitely many tuples are derivable, some stage is stable. -/
theorem exists_stableAt (hfin : {t | Derivable rule base t}.Finite) :
    ∃ k, StableAt rule base k := by
  have hsome : ∃ k, stage rule base k = stage rule base (k + 1) := by
    by_contra hnone
    rw [not_exists] at hnone
    -- One stage more than there are tuples is too much.
    have hle := le_ncard_stage hfin (k := {t | Derivable rule base t}.ncard + 1)
      fun j _ => hnone j
    have hsub : (stage rule base ({t | Derivable rule base t}.ncard + 1)).ncard ≤
        {t | Derivable rule base t}.ncard :=
      Set.ncard_le_ncard (fun t ht => derivable_of_mem_stage ht) hfin
    omega
  classical
  exact ⟨Nat.find hsome, Nat.find_spec hsome, fun n hn => Nat.find_min' hsome hn⟩

/-! ### In step -/

/-- The invariant of the rounds: all that a stage holds is known, and new is what the stage
before does not hold. -/
structure InStep (rule : Rule α) (base : α → Prop) (k : Nat) (s : List α × List α) : Prop where
  known : ∀ t, t ∈ s.1 ↔ t ∈ stage rule base (k + 1)
  new : ∀ t, t ∈ s.2 ↔ t ∈ stage rule base (k + 1) ∧ t ∉ stage rule base k

/-- In the beginning the base tuples are known, and all of them are new. -/
theorem InStep.start (hrule : ∀ t, ¬ rule [] t) {known : List α}
    (hknown : ∀ t, t ∈ known ↔ base t) : InStep rule base 0 (known, known) := by
  have hstage : ∀ t, t ∈ stage rule base 1 ↔ base t := by
    intro t
    constructor
    · rintro (hb | ⟨premises, hp, hr⟩)
      · exact hb
      · rcases premises with _ | ⟨u, premises⟩
        · exact absurd hr (hrule t)
        · exact absurd (hp u List.mem_cons_self) (Set.notMem_empty u)
    · exact .inl
  refine ⟨fun t => ?_, fun t => ?_⟩
  · rw [hstage, hknown]
  · rw [hstage, hknown]
    exact (and_iff_left (Set.notMem_empty t)).symm

/-- Nothing is new after a round exactly when its stage is stable. -/
theorem InStep.new_eq_nil_iff {k : Nat} {s : List α × List α} (h : InStep rule base k s) :
    s.2 = [] ↔ stage rule base k = stage rule base (k + 1) := by
  rw [List.eq_nil_iff_forall_not_mem]
  constructor
  · intro hnone
    refine Set.Subset.antisymm (stage_subset_succ k) fun t ht => ?_
    by_contra hold
    exact hnone t ((h.new t).mpr ⟨ht, hold⟩)
  · intro hstable t ht
    obtain ⟨hk, hold⟩ := (h.new t).mp ht
    exact hold (hstable ▸ hk)

end Stages

/-! ### Rounds -/

variable [DecidableEq α] {join : List α → List α → List α}

/-- One round, on what is known and what of it is new. -/
def nextRound (join : List α → List α → List α) (s : List α × List α) : List α × List α :=
  (s.1 ++ fresh join s.1 s.2, fresh join s.1 s.2)

/-- As long as something is new, a run does a round and goes on with what it leads to. -/
theorem saturate_succ {s : List α × List α} (h : s.2 ≠ []) (allowed : Nat) :
    saturate join (allowed + 1) s.1 s.2 =
      oneMore (saturate join allowed (nextRound join s).1 (nextRound join s).2) := by
  obtain ⟨known, _ | ⟨t, delta⟩⟩ := s
  · exact absurd rfl h
  · exact saturate_cons allowed known t delta

theorem saturate_zero {s : List α × List α} (h : s.2 ≠ []) :
    saturate join 0 s.1 s.2 = .error 1 := by
  obtain ⟨known, _ | ⟨t, delta⟩⟩ := s
  · exact absurd rfl h
  · simp [saturate]

/-- A run ends with the first round after which nothing is new, if so many rounds are allowed,
and else with the first one that is not allowed. -/
theorem saturate_eq {n : Nat} : ∀ (s : List α × List α), ((nextRound join)^[n] s).2 = [] →
    (∀ j < n, ((nextRound join)^[j] s).2 ≠ []) → ∀ allowed,
    saturate join allowed s.1 s.2 =
      if n ≤ allowed then .ok ⟨((nextRound join)^[n] s).1, n⟩ else .error (allowed + 1) := by
  induction n with
  | zero =>
    rintro ⟨known, delta⟩ hend - allowed
    rw [Function.iterate_zero_apply] at hend ⊢
    simp only at hend ⊢
    rw [hend, saturate_nil, if_pos (Nat.zero_le _)]
  | succ n ih =>
    intro s hend hbefore allowed
    have hnew : s.2 ≠ [] := hbefore 0 (Nat.succ_pos n)
    rcases allowed with _ | allowed
    · rw [saturate_zero hnew, if_neg (Nat.not_succ_le_zero n)]
    · -- After one round there is one round less to go.
      have hrest := ih (nextRound join s) hend
        (fun j hj => hbefore (j + 1) (Nat.succ_lt_succ hj)) allowed
      rw [saturate_succ hnew, hrest, Function.iterate_succ_apply]
      by_cases hn : n ≤ allowed
      · rw [if_pos hn, if_pos (Nat.succ_le_succ hn), oneMore]
      · rw [if_neg hn, if_neg (fun h => hn (Nat.le_of_succ_le_succ h)), oneMore]

/-! ### A whole run -/

section Run

variable {rule : Rule α} {base : α → Prop}

/-- A round leads from one stage to the next one. -/
theorem InStep.next (hjoin : JoinsBy join rule) {k : Nat} {s : List α × List α}
    (h : InStep rule base k s) : InStep rule base (k + 1) (nextRound join s) := by
  have hsub : s.2 ⊆ s.1 := fun t ht => (h.known t).mpr ((h.new t).mp ht).1
  have hfresh : ∀ t, t ∈ fresh join s.1 s.2 ↔
      t ∈ stage rule base (k + 2) ∧ t ∉ stage rule base (k + 1) := by
    intro t
    rw [mem_fresh, hjoin _ _ hsub, h.known]
    refine and_congr_left fun hold => ?_
    constructor
    · rintro ⟨premises, hp, -, hr⟩
      exact .inr ⟨premises, fun u hu => (h.known u).mp (hp hu), hr⟩
    · rintro (hb | ⟨premises, hp, hr⟩)
      · exact absurd (.inl hb) hold
      · refine ⟨premises, fun u hu => (h.known u).mpr (hp u hu), ?_, hr⟩
        -- If no premise were new, the conclusion would be in the stage that is known already.
        by_contra hnone
        refine hold (.inr ⟨premises, fun u hu => ?_, hr⟩)
        by_contra hu'
        exact hnone ⟨u, hu, (h.new u).mpr ⟨hp u hu, hu'⟩⟩
  refine ⟨fun t => ?_, hfresh⟩
  rw [nextRound, List.mem_append, h.known, hfresh]
  constructor
  · rintro (ht | ⟨ht, -⟩)
    · exact stage_subset_succ _ ht
    · exact ht
  · intro ht
    by_cases hold : t ∈ stage rule base (k + 1)
    · exact .inl hold
    · exact .inr ⟨ht, hold⟩

/-- After `k` rounds the tuples of stage `k + 1` are known. -/
theorem inStep_rounds (hjoin : JoinsBy join rule) (hrule : ∀ t, ¬ rule [] t) {known : List α}
    (hknown : ∀ t, t ∈ known ↔ base t) (k : Nat) :
    InStep rule base k ((nextRound join)^[k] (known, known)) := by
  induction k with
  | zero => exact .start hrule hknown
  | succ k ih =>
    rw [Function.iterate_succ_apply']
    exact ih.next hjoin

/-- **Saturation needs the steps of naive evaluation.**  A run ends after as many rounds as
naive evaluation needs to become stable, always with the same tuples.  When fewer are allowed
it fails in the first round that is not. -/
theorem saturate_of_stableAt (hjoin : JoinsBy join rule) (hrule : ∀ t, ¬ rule [] t)
    {known : List α} (hknown : ∀ t, t ∈ known ↔ base t) {n : Nat} (hn : StableAt rule base n)
    (allowed : Nat) :
    saturate join allowed known known =
      if n ≤ allowed then .ok ⟨((nextRound join)^[n] (known, known)).1, n⟩
      else .error (allowed + 1) := by
  have hstep := inStep_rounds hjoin hrule hknown
  refine saturate_eq (known, known) ((hstep n).new_eq_nil_iff.mpr hn.1) (fun j hj hnil => ?_)
    allowed
  exact absurd (hn.2 ((hstep j).new_eq_nil_iff.mp hnil)) (Nat.not_le.mpr hj)

end Run

end BorrowGraph.Liveness
