/-
The numbering of points.

Points are numbered densely in the order in which they are first met, and never renumbered.
Once the table is frozen no further point is admitted, so every number handed out before stays
valid.

A register keeps two things: the points in their order, from which a number is resolved, and a
dictionary in which the number of a point is looked up.  A new point is entered into both.  A
`PointTable` is a register in which the two are inverse to each other; the empty one is, and
numbering and freezing keep it so (`IsInverse.intern`, `IsInverse.freeze`).
-/
import BorrowGraph.Assoc
import BorrowGraph.Diagnostic
import BorrowGraph.Point

namespace BorrowGraph

/-- The points met so far in order, their numbers, and whether more may follow. -/
structure PointRegister where
  points : List Point
  index : List (Point × Int)
  frozen : Bool
  deriving DecidableEq, Repr

namespace PointTable

/-- The diagnostic for a new point that comes too late. -/
def frozenDiagnostic (p : Point) : Diagnostic :=
  { kind := .consistency
    code := .pointsFrozen
    text := "cannot intern a new point after the fact store was frozen"
    context := [("point", p.text)] }

/-- How a new point that comes too late is refused.  The diagnostic names the point, so that
the point has to be short enough to be written. -/
def lateFailure (p : Point) : Failure :=
  if p.location.fits then .diagnostic (frozenDiagnostic p) else .fault .tooLargeToWrite

/-- The diagnostic for a number that was never handed out. -/
def unknownDiagnostic (i : Int) : Diagnostic :=
  { kind := .consistency
    code := .unknownPoint
    text := "point index was never issued by this interner"
    context := [("index", Decimal.text i)] }

end PointTable

namespace PointRegister

open PointTable

/-- The register without points. -/
def empty : PointRegister := ⟨[], [], false⟩

/-- The number of a point that has been met. -/
def lookup (r : PointRegister) (p : Point) : Option Int :=
  Assoc.get? p r.index

/-- Enter a point under the next number. -/
def enter (r : PointRegister) (p : Point) : PointRegister :=
  { r with
    points := r.points ++ [p]
    index := Assoc.put p (r.points.length : Int) r.index }

/-- The number of a point, which is given one if it has none yet. -/
def intern (r : PointRegister) (p : Point) : PointRegister × Except Failure Int :=
  match r.lookup p with
  | some i => (r, .ok i)
  | none => if r.frozen then (r, .error (lateFailure p)) else (r.enter p, .ok r.points.length)

/-- The point behind a number. -/
def resolve (r : PointRegister) (i : Int) : Except Diagnostic Point :=
  if i < 0 then .error (unknownDiagnostic i)
  else
    match r.points[i.toNat]? with
    | some p => .ok p
    | none => .error (unknownDiagnostic i)

/-- Admit no further points. -/
def freeze (r : PointRegister) : PointRegister :=
  { r with frozen := true }

/-- Whether a point has been met. -/
def contains (r : PointRegister) (p : Point) : Bool :=
  (r.lookup p).isSome

/-! ### The two sides -/

/-- The numbers that are resolved are those that are looked up. -/
def IsInverse (r : PointRegister) : Prop :=
  ∀ p i, r.lookup p = some i ↔ r.resolve i = .ok p

theorem resolve_eq_ok {r : PointRegister} {i : Int} {p : Point} :
    r.resolve i = .ok p ↔ 0 ≤ i ∧ r.points[i.toNat]? = some p := by
  rw [resolve]
  by_cases hi : i < 0
  · simp only [if_pos hi, reduceCtorEq, false_iff]
    omega
  · rw [if_neg hi]
    rcases h : r.points[i.toNat]? with _ | q
    · simp
    · simp only [Except.ok.injEq, Option.some_inj]
      exact ⟨fun e => ⟨by omega, e⟩, fun e => e.2⟩

theorem lookup_enter (r : PointRegister) (p q : Point) :
    (r.enter p).lookup q = if q = p then some (r.points.length : Int) else r.lookup q :=
  Assoc.get?_put p q _ r.index

theorem isInverse_empty : empty.IsInverse := by
  intro p i
  rw [resolve_eq_ok]
  simp [empty, lookup, Assoc.get?]

namespace IsInverse

variable {r : PointRegister}

theorem freeze (h : r.IsInverse) : r.freeze.IsInverse := h

/-- A new point gets a number that resolves to it, and no other number changes on either side. -/
theorem enter (h : r.IsInverse) {p : Point} (hp : r.lookup p = none) : (r.enter p).IsInverse := by
  intro q i
  have hold : r.lookup q = some i ↔ 0 ≤ i ∧ r.points[i.toNat]? = some q :=
    (h q i).trans resolve_eq_ok
  have hnew : (r.enter p).points = r.points ++ [p] := rfl
  rw [lookup_enter, resolve_eq_ok, hnew, List.getElem?_append]
  by_cases hq : q = p
  · subst hq
    rw [if_pos rfl, Option.some_inj]
    rw [hp] at hold
    split
    · -- The point was not among the earlier ones, as it had no number.
      rename_i hlt
      simp only [reduceCtorEq, false_iff] at hold
      exact iff_of_false (by omega) hold
    · rename_i hge
      rw [List.getElem?_singleton]
      split
      · simp only [and_true]
        omega
      · simp only [reduceCtorEq, and_false, iff_false]
        omega
  · rw [if_neg hq, hold]
    split
    · rfl
    · rename_i hge
      rw [List.getElem?_eq_none (by omega), List.getElem?_singleton]
      split
      · simp [Ne.symm hq]
      · rfl

theorem intern (h : r.IsInverse) (p : Point) : (r.intern p).1.IsInverse := by
  rw [PointRegister.intern]
  rcases hp : r.lookup p with _ | i
  · rcases r.frozen with _ | _
    · exact h.enter hp
    · exact h
  · exact h

end IsInverse
end PointRegister

/-- A register whose two sides are inverse to each other. -/
structure PointTable extends PointRegister where
  inverse : toPointRegister.IsInverse
  deriving DecidableEq, Repr

namespace PointTable

/-- The table without points. -/
def empty : PointTable := ⟨.empty, PointRegister.isInverse_empty⟩

/-- The number of a point, which is given one if it has none yet. -/
def intern (t : PointTable) (p : Point) : PointTable × Except Failure Int :=
  (⟨(t.toPointRegister.intern p).1, t.inverse.intern p⟩, (t.toPointRegister.intern p).2)

/-- The table of the points of a list. -/
def ofPoints (ps : List Point) : PointTable :=
  ps.foldl (fun t p => (t.intern p).1) empty

/-- Admit no further points. -/
def freeze (t : PointTable) : PointTable :=
  ⟨t.toPointRegister.freeze, t.inverse.freeze⟩

end PointTable
end BorrowGraph
