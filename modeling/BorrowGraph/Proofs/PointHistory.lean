/-
The history of a point register.

A register is used through six operations (`Operation`): a point is numbered, by itself or by
its location and phase, it is looked up or asked for, a number is resolved, and at some time
the register is frozen.  What an operation can do to a register is said once, in
`perform_cases`: nothing, enter one new point into a register that is open, or freeze it.  From
this:

* `prefix_after`, `after_of_frozen`: what a run of operations keeps;
* `Accounts`: the list and the dictionary of a register are inverse to each other, and the
  numbers given out in a history are exactly those in the dictionary.  Each operation keeps
  this (`Accounts.perform`), so it is true at every moment (`accounts_history`);
* `history_consistent`: numbers and points stay inverse to each other through every history
  that starts with the empty register, and refusals and queries change nothing.
-/
import BorrowGraph.PointTable
import Mathlib.Data.List.Induction
import Mathlib.Tactic.Common

namespace BorrowGraph.PointRegister

open PointTable

/-! ### Operations -/

/-- What can be done with a register. -/
inductive Operation where
  | intern (p : Point)
  | get (l : Location) (phase : Phase)
  | lookup (p : Point)
  | resolve (i : Int)
  | contains (p : Point)
  | freeze
  deriving DecidableEq, Repr

inductive Answer where
  | number (i : Int)
  | found (i : Option Int)
  | point (p : Point)
  | isThere (b : Bool)
  | done
  deriving DecidableEq, Repr

namespace Operation

/-- The point that is to be numbered. -/
def numbered? : Operation → Option Point
  | .intern p => some p
  | .get l phase => some ⟨l, phase⟩
  | _ => none

/-- A query only looks at the register. -/
def IsQuery : Operation → Prop
  | .lookup _ | .resolve _ | .contains _ => True
  | _ => False

end Operation

/-- Number a point and answer with its number. -/
def enroll (r : PointRegister) (p : Point) : PointRegister × Except Failure Answer :=
  ((r.intern p).1, (r.intern p).2.map .number)

/-- The register after an operation, and the answer to it. -/
def perform (r : PointRegister) : Operation → PointRegister × Except Failure Answer
  | .intern p => r.enroll p
  | .get l phase => r.enroll ⟨l, phase⟩
  | .lookup p => (r, .ok (.found (r.lookup p)))
  | .resolve i => (r, ((r.resolve i).mapError .diagnostic).map .point)
  | .contains p => (r, .ok (.isThere (r.contains p)))
  | .freeze => (r.freeze, .ok .done)

/-- The register after several operations. -/
def after (r : PointRegister) (ops : List Operation) : PointRegister :=
  ops.foldl (fun r op => (r.perform op).1) r

/-- Operations with their answers. -/
def history (r : PointRegister) : List Operation → List (Operation × Except Failure Answer)
  | [] => []
  | op :: ops => (op, (r.perform op).2) :: (r.perform op).1.history ops

/-- A number was given to a point. -/
def Issued (events : List (Operation × Except Failure Answer)) (p : Point) (i : Int) : Prop :=
  ∃ op, op.numbered? = some p ∧ (op, .ok (.number i)) ∈ events

/-- A number was returned for a point, be it that it was given out then or looked up. -/
def Returned (events : List (Operation × Except Failure Answer)) (p : Point) (i : Int) : Prop :=
  Issued events p i ∨ (.lookup p, .ok (.found (some i))) ∈ events

theorem after_append (r : PointRegister) (ops ops' : List Operation) :
    r.after (ops ++ ops') = (r.after ops).after ops' :=
  List.foldl_append

theorem history_append (r : PointRegister) (ops ops' : List Operation) :
    r.history (ops ++ ops') = r.history ops ++ (r.after ops).history ops' := by
  induction ops generalizing r with
  | nil => rfl
  | cons op ops ih =>
    rw [List.cons_append, history, ih, history, List.cons_append]
    rfl

theorem issued_append {events events' : List (Operation × Except Failure Answer)} {p : Point}
    {i : Int} : Issued (events ++ events') p i ↔ Issued events p i ∨ Issued events' p i := by
  simp only [Issued, List.mem_append, and_or_left, exists_or]

/-! ### One operation -/

section Step

variable {r : PointRegister} {op : Operation} {p : Point}

theorem enroll_of_known {i : Int} (h : r.lookup p = some i) :
    r.enroll p = (r, .ok (.number i)) := by
  simp only [enroll, intern, h]
  rfl

theorem enroll_of_new (h : r.lookup p = none) (hr : r.frozen = false) :
    r.enroll p = (r.enter p, .ok (.number r.points.length)) := by
  simp only [enroll, intern, h, hr, Bool.false_eq_true, if_false]
  rfl

theorem enroll_of_late (h : r.lookup p = none) (hr : r.frozen = true) :
    r.enroll p = (r, .error (lateFailure p)) := by
  simp only [enroll, intern, h, hr, if_true]
  rfl

theorem perform_of_numbered (hop : op.numbered? = some p) : r.perform op = r.enroll p := by
  cases op with
  | intern q =>
    obtain rfl := Option.some_inj.mp hop
    rfl
  | get l phase =>
    obtain rfl := Option.some_inj.mp hop
    rfl
  | lookup q => cases hop
  | resolve i => cases hop
  | contains q => cases hop
  | freeze => cases hop

/-- What an operation can do: nothing, enter a new point into an open register, or freeze the
register. -/
theorem perform_cases (r : PointRegister) (op : Operation) :
    (r.perform op).1 = r ∨
      (∃ p, op.numbered? = some p ∧ r.frozen = false ∧ r.lookup p = none ∧
        r.perform op = (r.enter p, .ok (.number r.points.length))) ∨
      op = .freeze ∧ (r.perform op).1 = r.freeze := by
  rcases hop : op.numbered? with _ | p
  · cases op with
    | intern q => cases hop
    | get l phase => cases hop
    | lookup q => exact .inl rfl
    | resolve i => exact .inl rfl
    | contains q => exact .inl rfl
    | freeze => exact .inr (.inr ⟨rfl, rfl⟩)
  · rw [perform_of_numbered hop]
    rcases hp : r.lookup p with _ | i
    · rcases hr : r.frozen with _ | _
      · exact .inr (.inl ⟨p, rfl, rfl, hp, enroll_of_new hp hr⟩)
      · rw [enroll_of_late hp hr]
        exact .inl rfl
    · rw [enroll_of_known hp]
      exact .inl rfl

theorem perform_of_isQuery (hop : op.IsQuery) : (r.perform op).1 = r := by
  cases op with
  | intern q => cases hop
  | get l phase => cases hop
  | lookup q => rfl
  | resolve i => rfl
  | contains q => rfl
  | freeze => cases hop

theorem perform_of_error {e : Failure} (h : (r.perform op).2 = .error e) :
    (r.perform op).1 = r := by
  rcases perform_cases r op with hsame | ⟨p, -, -, -, hp⟩ | ⟨rfl, -⟩
  · exact hsame
  · rw [hp] at h
    cases h
  · cases h

theorem IsInverse.perform (h : r.IsInverse) (op : Operation) : (r.perform op).1.IsInverse := by
  rcases perform_cases r op with hsame | ⟨p, -, -, hp, heq⟩ | ⟨-, hfreeze⟩
  · rw [hsame]
    exact h
  · rw [heq]
    exact h.enter hp
  · rw [hfreeze]
    exact h.freeze

theorem prefix_perform (r : PointRegister) (op : Operation) :
    r.points <+: (r.perform op).1.points := by
  rcases perform_cases r op with hsame | ⟨p, -, -, -, hp⟩ | ⟨-, hfreeze⟩
  · exact ⟨[], by rw [hsame, List.append_nil]⟩
  · rw [hp]
    exact List.prefix_append _ _
  · exact ⟨[], by rw [hfreeze, freeze, List.append_nil]⟩

/-- A frozen register stays as it is. -/
theorem perform_of_frozen (hr : r.frozen = true) (op : Operation) : (r.perform op).1 = r := by
  rcases perform_cases r op with hsame | ⟨p, -, hopen, -, -⟩ | ⟨-, hfreeze⟩
  · exact hsame
  · rw [hr] at hopen
    cases hopen
  · rw [hfreeze, freeze, ← hr]

theorem frozen_perform (r : PointRegister) (op : Operation) :
    (r.perform op).1.frozen = true ↔ r.frozen = true ∨ op = .freeze := by
  rcases perform_cases r op with hsame | ⟨p, hop, -, -, hp⟩ | ⟨rfl, -⟩
  · -- An operation that changes nothing is no freezing, unless the register was frozen before.
    rw [hsame]
    refine ⟨.inl, ?_⟩
    rintro (hr | rfl)
    · exact hr
    · exact congrArg PointRegister.frozen hsame.symm
  · have hne : op ≠ .freeze := by
      rintro rfl
      cases hop
    rw [hp]
    simp [enter, hne]
  · simp [perform, freeze]

end Step

/-! ### Runs of operations -/

theorem prefix_after (r : PointRegister) (ops : List Operation) :
    r.points <+: (r.after ops).points := by
  induction ops generalizing r with
  | nil => exact List.prefix_refl _
  | cons op ops ih => exact (prefix_perform r op).trans (ih _)

theorem after_of_frozen {r : PointRegister} (hr : r.frozen = true) (ops : List Operation) :
    r.after ops = r := by
  induction ops with
  | nil => rfl
  | cons op ops ih =>
    have hop : r.after (op :: ops) = (r.perform op).1.after ops := rfl
    rw [hop, perform_of_frozen hr, ih]

theorem frozen_after (r : PointRegister) (ops : List Operation) :
    (r.after ops).frozen = true ↔ r.frozen = true ∨ .freeze ∈ ops := by
  induction ops generalizing r with
  | nil => simp [after]
  | cons op ops ih =>
    have hop : r.after (op :: ops) = (r.perform op).1.after ops := rfl
    rw [hop, ih, frozen_perform, List.mem_cons, or_assoc, eq_comm (a := op)]

theorem resolve_of_prefix {r r' : PointRegister} (h : r.points <+: r'.points) {i : Int} {p : Point}
    (hi : r.resolve i = .ok p) : r'.resolve i = .ok p := by
  rw [resolve_eq_ok] at hi ⊢
  obtain ⟨rest, hrest⟩ := h
  have hlt : i.toNat < r.points.length := (List.getElem?_eq_some_iff.mp hi.2).1
  rw [← hrest, List.getElem?_append_left hlt]
  exact hi

theorem exists_resolve_iff (r : PointRegister) (i : Int) :
    (∃ p, r.resolve i = .ok p) ↔ 0 ≤ i ∧ i < r.points.length := by
  simp only [resolve_eq_ok, exists_and_left]
  constructor
  · rintro ⟨hi, p, hp⟩
    have hlt := (List.getElem?_eq_some_iff.mp hp).1
    exact ⟨hi, by omega⟩
  · rintro ⟨hi, hlt⟩
    exact ⟨hi, _, List.getElem?_eq_getElem (by omega)⟩

theorem resolve_error_iff (r : PointRegister) (i : Int) :
    (∃ d, r.resolve i = .error d) ↔ i < 0 ∨ r.points.length ≤ i := by
  have hok := exists_resolve_iff r i
  rcases h : r.resolve i with d | p
  · rw [h] at hok
    have hnot : ¬ (0 ≤ i ∧ i < r.points.length) := by
      rw [← hok]
      simp
    refine iff_of_true ⟨d, rfl⟩ ?_
    omega
  · rw [h] at hok
    have hin : 0 ≤ i ∧ i < r.points.length := hok.mp ⟨p, rfl⟩
    refine iff_of_false (by simp) ?_
    omega

/-! ### Accounts -/

/-- The two sides of a register are inverse to each other, and a number was given to a point
exactly if the dictionary has it. -/
structure Accounts (events : List (Operation × Except Failure Answer)) (r : PointRegister) :
    Prop where
  inverse : r.IsInverse
  issued_iff : ∀ p i, Issued events p i ↔ r.lookup p = some i

namespace Accounts

variable {events : List (Operation × Except Failure Answer)} {r : PointRegister}

theorem resolve_iff (h : Accounts events r) {p : Point} {i : Int} :
    r.resolve i = .ok p ↔ Issued events p i := by
  rw [h.issued_iff, h.inverse p i]

/-- An operation that gives out a number that the dictionary has keeps the account. -/
theorem again (h : Accounts events r) {op : Operation} {answer : Except Failure Answer}
    (hop : ∀ p i, op.numbered? = some p → answer = .ok (.number i) → r.lookup p = some i) :
    Accounts (events ++ [(op, answer)]) r where
  inverse := h.inverse
  issued_iff := by
    intro p i
    rw [issued_append, h.issued_iff]
    refine or_iff_left_of_imp ?_
    rintro ⟨op', hnumbered, hmem⟩
    obtain ⟨rfl, rfl⟩ := Prod.mk.inj (List.mem_singleton.mp hmem)
    exact hop p i hnumbered rfl

/-- A new point gets a number that no point had. -/
theorem enter (h : Accounts events r) {op : Operation} {q : Point} (hop : op.numbered? = some q)
    (hq : r.lookup q = none) :
    Accounts (events ++ [(op, .ok (.number r.points.length))]) (r.enter q) where
  inverse := h.inverse.enter hq
  issued_iff := by
    intro p i
    have hnew : Issued [(op, .ok (.number r.points.length))] p i ↔
        p = q ∧ (r.points.length : Int) = i := by
      constructor
      · rintro ⟨op', hnumbered, hmem⟩
        obtain ⟨rfl, hanswer⟩ := Prod.mk.inj (List.mem_singleton.mp hmem)
        rw [hop] at hnumbered
        exact ⟨(Option.some_inj.mp hnumbered).symm,
          (Answer.number.inj (Except.ok.inj hanswer)).symm⟩
      · rintro ⟨rfl, rfl⟩
        exact ⟨op, hop, List.mem_singleton_self _⟩
    rw [issued_append, h.issued_iff, hnew, lookup_enter]
    by_cases hp : p = q
    · subst hp
      simp [hq]
    · simp [hp]

theorem perform (h : Accounts events r) (op : Operation) :
    Accounts (events ++ [(op, (r.perform op).2)]) (r.perform op).1 := by
  rcases perform_cases r op with hsame | ⟨p, hop, -, hp, heq⟩ | ⟨rfl, -⟩
  · rw [hsame]
    refine h.again ?_
    intro p i hop hanswer
    rw [perform_of_numbered hop] at hsame hanswer
    rcases hp : r.lookup p with _ | j
    · -- A new point is refused here, as it would be entered otherwise.
      rcases hr : r.frozen with _ | _
      · rw [enroll_of_new hp hr] at hsame
        have hentered : (r.enter p).lookup p = some (r.points.length : Int) := by
          rw [lookup_enter, if_pos rfl]
        rw [show r.enter p = r from hsame, hp] at hentered
        cases hentered
      · rw [enroll_of_late hp hr] at hanswer
        cases hanswer
    · rw [enroll_of_known hp] at hanswer
      rw [Answer.number.inj (Except.ok.inj hanswer)]
  · rw [heq]
    exact h.enter hop hp
  · have hfreeze : Accounts (events ++ [(.freeze, .ok .done)]) r :=
      h.again fun p i hop _ => by cases hop
    exact ⟨hfreeze.inverse.freeze, hfreeze.issued_iff⟩

end Accounts

theorem accounts_history (ops : List Operation) :
    Accounts (empty.history ops) (empty.after ops) := by
  induction ops using List.reverseRecOn with
  | nil => exact ⟨isInverse_empty, by simp [Issued, history, after, empty, lookup, Assoc.get?]⟩
  | append_singleton ops op ih =>
    rw [history_append, after_append]
    exact ih.perform op

/-- Numbers are returned for the points that have them, then and at any later moment. -/
theorem resolve_of_returned {ops : List Operation} {p : Point} {i : Int}
    (h : Returned (empty.history ops) p i) : (empty.after ops).resolve i = .ok p := by
  rcases h with h | h
  · exact (accounts_history ops).resolve_iff.mpr h
  · -- The point was looked up after some of the operations, and the register has only grown since.
    induction ops using List.reverseRecOn with
    | nil => cases h
    | append_singleton ops op ih =>
      rw [history_append, List.mem_append] at h
      rw [after_append]
      refine resolve_of_prefix (prefix_after _ [op]) ?_
      rcases h with h | h
      · exact ih h
      · obtain ⟨rfl, hanswer⟩ := Prod.mk.inj (List.mem_singleton.mp h)
        have hfound : (empty.after ops).lookup p = some i :=
          (Answer.found.inj (Except.ok.inj hanswer)).symm
        exact ((accounts_history ops).inverse p i).mp hfound

theorem enroll_error_iff (r : PointRegister) (p : Point) :
    (∃ e, (r.enroll p).2 = .error e) ↔ r.frozen = true ∧ r.lookup p = none := by
  rcases hp : r.lookup p with _ | i
  · rcases hr : r.frozen with _ | _
    · rw [enroll_of_new hp hr]
      simp
    · rw [enroll_of_late hp hr]
      simp
  · rw [enroll_of_known hp]
    simp

/-! ### All histories -/

/-- **Numbers and points stay inverse to each other.**  After any operations on the empty
register the numbers given out are those below the count of points, resolving in the list and
looking up in the dictionary are inverse to each other between them and the points that were
numbered, and whatever number was returned for a point resolves to it ever after.  Refusals and
queries change nothing, and neither does anything once the register is frozen.  A point is
refused exactly if it is new and the register is frozen, a number exactly if it is negative or
not below the count. -/
theorem history_consistent (ops later : List Operation) :
    (∀ i, (∃ p, Issued (empty.history ops) p i) ↔
        0 ≤ i ∧ i < (empty.after ops).points.length) ∧
      (∀ p i, (empty.after ops).lookup p = some i ↔ (empty.after ops).resolve i = .ok p) ∧
      (∀ i p, (empty.after ops).resolve i = .ok p ↔ Issued (empty.history ops) p i) ∧
      (∀ p i, (empty.after ops).lookup p = some i ↔ Issued (empty.history ops) p i) ∧
      (∀ p, (empty.after ops).contains p = true ↔ ∃ i, Issued (empty.history ops) p i) ∧
      (∀ p i, Returned (empty.history ops) p i →
        (empty.after (ops ++ later)).resolve i = .ok p) ∧
      (∀ op, op.IsQuery ∨ (∃ e, ((empty.after ops).perform op).2 = .error e) →
        ((empty.after ops).perform op).1 = empty.after ops) ∧
      (.freeze ∈ ops → empty.after (ops ++ later) = empty.after ops) ∧
      (∀ op p, op.numbered? = some p →
        ((∃ e, ((empty.after ops).perform op).2 = .error e) ↔
          .freeze ∈ ops ∧ ¬ ∃ i, Issued (empty.history ops) p i)) ∧
      (∀ i, (∃ e, ((empty.after ops).perform (.resolve i)).2 = .error e) ↔
        i < 0 ∨ (empty.after ops).points.length ≤ i) := by
  have haccounts := accounts_history ops
  have hfrozen : (empty.after ops).frozen = true ↔ .freeze ∈ ops := by
    rw [frozen_after]
    simp [empty]
  refine ⟨fun i => ?_, haccounts.inverse, fun i p => haccounts.resolve_iff,
    fun p i => (haccounts.issued_iff p i).symm, ?_, ?_, ?_, ?_, ?_, ?_⟩
  · rw [← exists_resolve_iff]
    exact exists_congr fun p => haccounts.resolve_iff.symm
  · intro p
    simp only [contains, Option.isSome_iff_exists, haccounts.issued_iff]
  · intro p i hreturned
    rw [after_append]
    exact resolve_of_prefix (prefix_after _ later) (resolve_of_returned hreturned)
  · rintro op (hquery | ⟨e, he⟩)
    · exact perform_of_isQuery hquery
    · exact perform_of_error he
  · intro hfreeze
    rw [after_append, after_of_frozen (hfrozen.mpr hfreeze)]
  · intro op p hop
    rw [perform_of_numbered hop, enroll_error_iff, hfrozen]
    simp only [haccounts.issued_iff, Option.eq_none_iff_forall_ne_some, not_exists, ne_eq]
  · intro i
    rw [← resolve_error_iff, perform]
    rcases (empty.after ops).resolve i with d | p
    · simp [Except.map, Except.mapError]
    · simp [Except.map, Except.mapError]

/-- Two points are numbered, the register is frozen, a third one is refused and the first one
found again. -/
example :
    (empty.history [.intern ⟨⟨0, 0⟩, .mid⟩, .get ⟨0, 0⟩ .start, .freeze, .intern ⟨⟨1, 0⟩, .mid⟩,
      .intern ⟨⟨0, 0⟩, .mid⟩, .resolve 2]).map Prod.snd =
    [.ok (.number 0), .ok (.number 1), .ok .done,
      .error (.diagnostic (frozenDiagnostic ⟨⟨1, 0⟩, .mid⟩)), .ok (.number 0),
      .error (.diagnostic (unknownDiagnostic 2))] := by
  decide

end BorrowGraph.PointRegister
