/-
Saturation reaches exactly what is derivable.

A rule leads from a list of premises to a conclusion.  `Derivable rule base` is the least
relation that holds the base tuples and is closed under the rule, and this is the meaning that
`saturate` has:

* `Frontier`, the invariant of the rounds: everything known is derivable, and whatever follows
  from premises that were all known before the last round is known as well;
* `Frontier.next`, `saturate_frontier`: one round keeps it, and so does a whole run;
* `mem_saturate_iff`: a run that ends knows exactly the derivable tuples.

A join applies a rule as soon as one premise is new; the others may be old or new.  This is
what `JoinsBy` asks of a join, and it is why the invariant speaks only of premises none of
which is new.
-/
import BorrowGraph.Liveness

namespace BorrowGraph.Liveness

/-- A rule, by the conclusions that follow from premises. -/
abbrev Rule (α : Type) := List α → α → Prop

/-- What follows from base tuples by a rule. -/
inductive Derivable {α : Type} (rule : Rule α) (base : α → Prop) : α → Prop where
  | base {t : α} : base t → Derivable rule base t
  | step {premises : List α} {t : α} : (∀ u ∈ premises, Derivable rule base u) →
      rule premises t → Derivable rule base t

variable {α : Type} {rule : Rule α} {base : α → Prop}

/-! ### The invariant -/

/-- The invariant of the rounds. -/
structure Frontier (rule : Rule α) (base : α → Prop) (known delta : List α) : Prop where
  delta_subset : delta ⊆ known
  base_mem : ∀ t, base t → t ∈ known
  derivable : ∀ t ∈ known, Derivable rule base t
  joined : ∀ premises t, premises ⊆ known → (∀ u ∈ premises, u ∉ delta) → rule premises t →
    t ∈ known

/-- In the beginning all that is known is new. -/
theorem Frontier.start (hrule : ∀ t, ¬ rule [] t) {known : List α}
    (hknown : ∀ t, t ∈ known ↔ base t) : Frontier rule base known known where
  delta_subset := fun _ h => h
  base_mem := fun t h => (hknown t).mpr h
  derivable := fun t h => .base ((hknown t).mp h)
  joined := by
    intro premises t hsub hold hr
    rcases premises with _ | ⟨u, premises⟩
    · exact absurd hr (hrule t)
    · have hu : u ∈ u :: premises := List.mem_cons_self
      exact absurd (hsub hu) (hold u hu)

/-- Where nothing is new, the known tuples are closed under the rule. -/
theorem Frontier.mem_of_derivable {known : List α} (h : Frontier rule base known [])
    {t : α} (ht : Derivable rule base t) : t ∈ known := by
  induction ht with
  | base hb => exact h.base_mem _ hb
  | step _ hr ih => exact h.joined _ _ ih (fun u _ => List.not_mem_nil) hr

/-! ### One round -/

/-- A join finds what follows by a rule from known premises at least one of which is new. -/
def JoinsBy (join : List α → List α → List α) (rule : Rule α) : Prop :=
  ∀ known delta : List α, delta ⊆ known → ∀ t : α, t ∈ join known delta ↔
    ∃ premises ⊆ known, (∃ u ∈ premises, u ∈ delta) ∧ rule premises t

variable [DecidableEq α] {join : List α → List α → List α}

/-- The tuples that a round adds. -/
def fresh (join : List α → List α → List α) (known delta : List α) : List α :=
  ((join known delta).filter fun u => !known.contains u).eraseDups

theorem mem_fresh {known delta : List α} {t : α} :
    t ∈ fresh join known delta ↔ t ∈ join known delta ∧ t ∉ known := by
  simp [fresh, List.mem_eraseDups]

theorem saturate_nil (allowed : Nat) (known : List α) :
    saturate join allowed known [] = .ok ⟨known, 0⟩ := by
  simp [saturate]

theorem saturate_cons (allowed : Nat) (known : List α) (t : α) (delta : List α) :
    saturate join (allowed + 1) known (t :: delta) =
      oneMore (saturate join allowed (known ++ fresh join known (t :: delta))
        (fresh join known (t :: delta))) := by
  simp only [saturate, fresh]

omit [DecidableEq α] in
theorem oneMore_eq_ok {run : Except Nat (Saturated α)} {s : Saturated α} :
    oneMore run = .ok s ↔ ∃ s', run = .ok s' ∧ { s' with rounds := s'.rounds + 1 } = s := by
  cases run with
  | error rounds => simp [oneMore]
  | ok s' => simp [oneMore]

/-- A round keeps the invariant. -/
theorem Frontier.next (hjoin : JoinsBy join rule) {known delta : List α}
    (h : Frontier rule base known delta) :
    Frontier rule base (known ++ fresh join known delta) (fresh join known delta) where
  delta_subset := List.subset_append_right _ _
  base_mem := fun t ht => List.mem_append_left _ (h.base_mem t ht)
  derivable := by
    intro t ht
    rcases List.mem_append.mp ht with ht | ht
    · exact h.derivable t ht
    · obtain ⟨premises, hsub, -, hr⟩ := (hjoin _ _ h.delta_subset t).mp (mem_fresh.mp ht).1
      exact .step (fun u hu => h.derivable u (hsub hu)) hr
  joined := by
    intro premises t hsub hold hr
    have hknown : premises ⊆ known := by
      intro u hu
      rcases List.mem_append.mp (hsub hu) with h' | h'
      · exact h'
      · exact absurd h' (hold u hu)
    by_cases hnew : ∃ u ∈ premises, u ∈ delta
    · -- The rule is applied in this round.
      have ht : t ∈ join known delta :=
        (hjoin _ _ h.delta_subset t).mpr ⟨premises, hknown, hnew, hr⟩
      by_cases htk : t ∈ known
      · exact List.mem_append_left _ htk
      · exact List.mem_append_right _ (mem_fresh.mpr ⟨ht, htk⟩)
    · -- It has been applied before.
      have hold' : ∀ u ∈ premises, u ∉ delta := fun u hu hd => hnew ⟨u, hu, hd⟩
      exact List.mem_append_left _ (h.joined premises t hknown hold' hr)

/-! ### A whole run -/

/-- A run keeps the invariant, and at its end nothing is new. -/
theorem saturate_frontier (hjoin : JoinsBy join rule) {allowed : Nat} :
    ∀ {known delta : List α} {s : Saturated α}, Frontier rule base known delta →
      saturate join allowed known delta = .ok s → Frontier rule base s.tuples [] := by
  induction allowed with
  | zero =>
    intro known delta s h hs
    rcases delta with _ | ⟨t, delta⟩
    · rw [saturate_nil, Except.ok.injEq] at hs
      subst hs
      exact h
    · simp [saturate] at hs
  | succ allowed ih =>
    intro known delta s h hs
    rcases delta with _ | ⟨t, delta⟩
    · rw [saturate_nil, Except.ok.injEq] at hs
      subst hs
      exact h
    · rw [saturate_cons, oneMore_eq_ok] at hs
      obtain ⟨s', hs', rfl⟩ := hs
      have hend := ih (h.next hjoin) hs'
      exact hend

/-- **Saturation is exact**: a run that ends knows exactly what is derivable. -/
theorem mem_saturate_iff (hjoin : JoinsBy join rule) (hrule : ∀ t, ¬ rule [] t) {known : List α}
    (hknown : ∀ t, t ∈ known ↔ base t) {allowed : Nat} {s : Saturated α}
    (hs : saturate join allowed known known = .ok s) (t : α) :
    t ∈ s.tuples ↔ Derivable rule base t := by
  have hend := saturate_frontier hjoin (Frontier.start hrule hknown) hs
  exact ⟨hend.derivable t, hend.mem_of_derivable⟩

end BorrowGraph.Liveness
