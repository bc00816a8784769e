/-
What computations do, their logs aside.

A computation appends to its log and never looks at it.  So what it does is told by its result
and by the state that it leaves: `t.Yields s r s'` says that `t` leads from `s` to the result
`r` and the state `s'`, whatever was logged before.  There is one lemma for each primitive and
one for each way of putting computations together:

* `Yields.bind`, `Yields.bind_error`: one computation after the other;
* `Yields.tryCatch_ok`, `Yields.tryCatch_error`: a computation whose failure is caught;
* `yields_within`, `yields_onPart`: a computation with a state of its own, or on a part of the
  state; these start with an empty log, so their result is that of `Task.start`;
* `Yields.outcome`: a failure turned into a result;
* `Yields.start`: what is yielded is what a run from an empty log gives.
-/
import BorrowGraph.Log

namespace BorrowGraph.Task

variable {σ τ α β : Type}

/-! ### Runs of composed computations -/

theorem run_bind (t : Task σ α) (f : α → Task σ β) (l : Logged σ) :
    (t >>= f).run l =
      match t.run l with
      | (.ok a, l') => (f a).run l'
      | (.error e, l') => (.error e, l') := by
  show ExceptT.bindCont f (t.run l).1 (t.run l).2 = _
  rcases t.run l with ⟨e | a, l'⟩
  · rfl
  · rfl

theorem run_tryCatch (t : Task σ α) (handle : Failure → Task σ α) (l : Logged σ) :
    (tryCatch t handle).run l =
      match t.run l with
      | (.ok a, l') => (.ok a, l')
      | (.error e, l') => (handle e).run l' := by
  show (ExceptT.tryCatch t handle).run l = _
  rw [ExceptT.tryCatch, ExceptT.run_mk]
  rcases h : t.run l with ⟨e | a, l'⟩
  · have hl : t l = (.error e, l') := h
    simp only [bind, StateT.bind, hl]
    rfl
  · have hl : t l = (.ok a, l') := h
    simp only [bind, StateT.bind, hl]
    rfl

/-! ### Results and states -/

/-- From a state, whatever has been logged, a computation leads to a result and a state. -/
def Yields (t : Task σ α) (s : σ) (r : Except Failure α) (s' : σ) : Prop :=
  ∀ log, ∃ log', t.run ⟨s, log⟩ = (r, ⟨s', log'⟩)

theorem Yields.start {t : Task σ α} {s s' : σ} {r : Except Failure α} (h : t.Yields s r s') :
    (t.start s).1 = r ∧ (t.start s).2.state = s' := by
  obtain ⟨log, ht⟩ := h []
  rw [Task.start, ht]
  exact ⟨rfl, rfl⟩

section Primitives

variable (s : σ)

theorem yields_pure (a : α) : Yields (pure a) s (.ok a) s :=
  fun log => ⟨log, rfl⟩

theorem yields_throw (e : Failure) : Yields (throw e : Task σ α) s (.error e) s :=
  fun log => ⟨log, rfl⟩

theorem yields_note (e : LogEntry) : Yields (note e) s (.ok ()) s :=
  fun log => ⟨log ++ [e], rfl⟩

theorem yields_getState : Yields getState s (.ok s) s :=
  fun log => ⟨log, rfl⟩

theorem yields_setState (s' : σ) : Yields (setState s') s (.ok ()) s' :=
  fun log => ⟨log, rfl⟩

theorem yields_ofExcept (r : Except Failure α) : Yields (ofExcept r) s r s := by
  cases r with
  | ok a => exact yields_pure s a
  | error e => exact yields_throw s e

end Primitives

/-! ### Compositions -/

theorem Yields.bind {t : Task σ α} {f : α → Task σ β} {s s' s'' : σ} {a : α} {r : Except Failure β}
    (h : t.Yields s (.ok a) s') (h' : (f a).Yields s' r s'') : (t >>= f).Yields s r s'' := by
  intro log
  obtain ⟨log', ht⟩ := h log
  obtain ⟨log'', hf⟩ := h' log'
  refine ⟨log'', ?_⟩
  rw [run_bind, ht]
  exact hf

theorem Yields.bind_error {t : Task σ α} {f : α → Task σ β} {s s' : σ} {e : Failure}
    (h : t.Yields s (.error e) s') : (t >>= f).Yields s (.error e) s' := by
  intro log
  obtain ⟨log', ht⟩ := h log
  refine ⟨log', ?_⟩
  rw [run_bind, ht]

theorem Yields.tryCatch_ok {t : Task σ α} {s s' : σ} {a : α} (h : t.Yields s (.ok a) s')
    (handle : Failure → Task σ α) : (tryCatch t handle).Yields s (.ok a) s' := by
  intro log
  obtain ⟨log', ht⟩ := h log
  refine ⟨log', ?_⟩
  rw [run_tryCatch, ht]

theorem Yields.tryCatch_error {t : Task σ α} {handle : Failure → Task σ α} {s s' s'' : σ}
    {e : Failure}
    {r : Except Failure α} (h : t.Yields s (.error e) s') (h' : (handle e).Yields s' r s'') :
    (tryCatch t handle).Yields s r s'' := by
  intro log
  obtain ⟨log', ht⟩ := h log
  obtain ⟨log'', hhandle⟩ := h' log'
  refine ⟨log'', ?_⟩
  rw [run_tryCatch, ht]
  exact hhandle

theorem yields_forM_note (log : List LogEntry) (s : σ) :
    Yields (log.forM note) s (.ok ()) s := by
  induction log with
  | nil => exact yields_pure s ()
  | cons e log ih => exact (yields_note s e).bind ih

theorem yields_within (s₀ : τ) (t : Task τ α) (s : σ) :
    (within s₀ t).Yields s ((t.start s₀).1.map fun a => (a, (t.start s₀).2.state)) s := by
  intro log
  refine ⟨log ++ (t.start s₀).2.log, ?_⟩
  rw [start]
  rcases h : t.run ⟨s₀, []⟩ with ⟨e | a, inner⟩
  · simp only [within, h]
    rfl
  · simp only [within, h]
    rfl

theorem yields_onPart (view : σ → τ) (update : σ → τ → σ) (t : Task τ α) (s : σ) :
    (onPart view update t).Yields s (t.start (view s)).1
      (update s (t.start (view s)).2.state) := by
  intro log
  refine ⟨log ++ (t.start (view s)).2.log, ?_⟩
  have hget : (get : Task σ (Logged σ)).run ⟨s, log⟩ = (.ok ⟨s, log⟩, ⟨s, log⟩) := rfl
  rw [onPart, run_bind, hget]
  simp only [start]
  rcases t.run ⟨view s, []⟩ with ⟨e | a, inner⟩
  · rfl
  · rfl

theorem Yields.outcome {t : Task σ α} {s s' : σ} {r : Except Failure α} (h : t.Yields s r s') :
    (outcome t).Yields s (.ok r) s' := by
  intro log
  obtain ⟨log', ht⟩ := h log
  refine ⟨log', ?_⟩
  rw [Task.outcome, run_tryCatch, run_bind, ht]
  cases r with
  | ok a => rfl
  | error e => rfl

end BorrowGraph.Task
