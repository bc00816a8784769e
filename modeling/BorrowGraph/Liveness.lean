/-
Which loans are live where.

The rules, over facts:

* `Subset`: at a point, one region is contained in another.  It starts from the outlives
  relation, is transitive, and passes along an edge when both regions are live behind it.
* `Requires`: at a point, a region requires a loan.  It starts from the creation of loans,
  follows `Subset`, and passes along an edge when the loan is not killed and the region is live
  behind it.
* A loan is live where a live region requires it, and an error where it is live and
  invalidated.

`saturate` computes such a relation round by round: a round joins only the tuples found in the
round before.  A round goes through all tuples known so far to find those that a new one joins
with; no index over them is kept.  The rounds of a run are counted and bounded, and a run that
needs more fails in the first round that is not allowed.
-/
import BorrowGraph.Facts
import BorrowGraph.Log

namespace BorrowGraph

/-! ### The rules -/

/-- A region is contained in another one at a point. -/
inductive Subset (f : Facts) : Region → Region → PointIndex → Prop where
  | base {r₁ r₂ p} : (r₁, r₂, p) ∈ f.outlives → Subset f r₁ r₂ p
  | trans {r₁ r₂ r₃ p} : Subset f r₁ r₂ p → Subset f r₂ r₃ p → Subset f r₁ r₃ p
  | flow {r₁ r₂ p q} : Subset f r₁ r₂ p → (p, q) ∈ f.cfgEdge → (r₁, q) ∈ f.regionLiveAt →
      (r₂, q) ∈ f.regionLiveAt → Subset f r₁ r₂ q

/-- A region requires a loan at a point. -/
inductive Requires (f : Facts) : Region → Loan → PointIndex → Prop where
  | base {r l p} : (r, l, p) ∈ f.borrowRegion → Requires f r l p
  | widen {r₁ r₂ l p} : Requires f r₁ l p → Subset f r₁ r₂ p → Requires f r₂ l p
  | flow {r l p q} : Requires f r l p → (l, p) ∉ f.killed → (p, q) ∈ f.cfgEdge →
      (r, q) ∈ f.regionLiveAt → Requires f r l q

namespace Liveness

def logSource : String := "mir_dump.solver"

/-- The rounds that are allowed unless another bound is given. -/
def defaultBound : Int := 1000000

/-! ### Saturation -/

/-- A relation and how many rounds were spent on it. -/
structure Saturated (α : Type) where
  tuples : List α
  rounds : Nat

/-- A run with one round more before it.  A run that is broken off only tells how many rounds
began. -/
def oneMore {α : Type} : Except Nat (Saturated α) → Except Nat (Saturated α)
  | .ok s => .ok { s with rounds := s.rounds + 1 }
  | .error rounds => .error (rounds + 1)

/-- Close a relation under a rule.  `delta` holds the tuples found in the last round and `join`
what follows from them and all known tuples.  Rounds are counted when they begin.  The first
one that is not `allowed` begins, but is not carried out. -/
def saturate {α : Type} [DecidableEq α] (join : List α → List α → List α) :
    Nat → List α → List α → Except Nat (Saturated α)
  | _, known, [] => .ok ⟨known, 0⟩
  | 0, _, _ :: _ => .error 1
  | allowed + 1, known, t :: delta =>
    let fresh := ((join known (t :: delta)).filter fun u => !known.contains u).eraseDups
    oneMore (saturate join allowed (known ++ fresh) fresh)

/-- What follows in one round from tuples of `Subset`. -/
def joinSubset (f : Facts) (known delta : List (Region × Region × PointIndex)) :
    List (Region × Region × PointIndex) :=
  delta.flatMap fun (r₁, r₂, p) =>
    (known.filterMap fun (s, r₃, q) => if q = p ∧ s = r₂ then some (r₁, r₃, p) else none)
      ++ (known.filterMap fun (r₀, s, q) => if q = p ∧ s = r₁ then some (r₀, r₂, p) else none)
      ++ f.cfgEdge.filterMap fun (o, q) =>
        if o = p ∧ (r₁, q) ∈ f.regionLiveAt ∧ (r₂, q) ∈ f.regionLiveAt then some (r₁, r₂, q)
        else none

/-- What follows in one round from tuples of `Requires`, with all tuples of `Subset`. -/
def joinRequires (f : Facts) (subset : List (Region × Region × PointIndex))
    (delta : List (Region × Loan × PointIndex)) : List (Region × Loan × PointIndex) :=
  delta.flatMap fun (r, l, p) =>
    (subset.filterMap fun (s, r₂, q) => if q = p ∧ s = r then some (r₂, l, p) else none)
      ++ if (l, p) ∈ f.killed then []
        else f.cfgEdge.filterMap fun (o, q) =>
          if o = p ∧ (r, q) ∈ f.regionLiveAt then some (r, l, q) else none

/-- Both relations if `allowed` rounds suffice for them, and else the count of the rounds that
began. -/
def relations (f : Facts) (allowed : Nat) : Except Nat
    (Saturated (Region × Region × PointIndex) × Saturated (Region × Loan × PointIndex)) :=
  match saturate (joinSubset f) allowed f.outlives.eraseDups f.outlives.eraseDups with
  | .error rounds => .error rounds
  | .ok subset =>
    match saturate (fun _ => joinRequires f subset.tuples) (allowed - subset.rounds)
      f.borrowRegion.eraseDups f.borrowRegion.eraseDups with
    | .error rounds => .error (subset.rounds + rounds)
    | .ok requires => .ok (subset, requires)

/-! ### The answer -/

/-- What is derived from facts, by points. -/
structure Output where
  borrowLive : List (PointIndex × List Loan) := []
  subset : List (PointIndex × List (Region × List Region)) := []
  restricts : List (PointIndex × List (Region × List Loan)) := []
  errors : List (PointIndex × List Loan) := []
  deriving DecidableEq, Repr

/-- Sort numbers. -/
def sortInts (ns : List Int) : List Int :=
  ns.mergeSort fun a b => decide (a ≤ b)

/-- Group pairs by their first component, in order. -/
def group (pairs : List (Int × Int)) : List (Int × List Int) :=
  (sortInts (pairs.map Prod.fst).eraseDups).map fun k =>
    (k, sortInts ((pairs.filterMap fun (a, b) => if a = k then some b else none).eraseDups))

/-- Group triples by their last component and then by their first, in order. -/
def groupTwice (triples : List (Int × Int × Int)) : List (Int × List (Int × List Int)) :=
  (sortInts (triples.map fun (_, _, p) => p).eraseDups).map fun p =>
    (p, group (triples.filterMap fun (a, b, q) => if q = p then some (a, b) else none))

/-- The loans live at a point. -/
def Output.liveAt (o : Output) (p : PointIndex) : List Loan :=
  ((o.borrowLive.find? fun (q, _) => q = p).map Prod.snd).getD []

/-- An answer that only says which loans are live where. -/
def Output.ofLive (rows : List (PointIndex × List Loan)) : Output :=
  { borrowLive :=
      (rows.map fun (p, ls) => (p, sortInts ls.eraseDups)).mergeSort fun a b => decide (a.1 ≤ b.1) }

/-- The pairs of points and loans live there. -/
def livePairs (f : Facts) (requires : List (Region × Loan × PointIndex)) :
    List (PointIndex × Loan) :=
  requires.filterMap fun (r, l, p) => if (r, p) ∈ f.regionLiveAt then some (p, l) else none

/-- The answer that both relations give. -/
def answer (f : Facts) (subset : List (Region × Region × PointIndex))
    (requires : List (Region × Loan × PointIndex)) : Output :=
  let live := livePairs f requires
  { borrowLive := group live
    subset := groupTwice subset
    restricts := groupTwice requires
    errors := group (f.invalidates.filter fun (p, l) => live.contains (p, l)) }

/-- The end of a run: an answer, or a fault when it needs too many rounds. -/
structure Solution where
  result : Except Fault Output
  rounds : Nat
  log : List LogEntry := []

/-- The entry logged at the end of a run. -/
def finished (subset requires errors rounds : Nat) : LogEntry :=
  ⟨.debug, logSource, "Solver finished: " ++ Nat.repr subset ++ " subset, "
    ++ Nat.repr requires ++ " requires tuple(s), " ++ Nat.repr errors ++ " error point(s) in "
    ++ Nat.repr rounds ++ " round(s), 0.000s"⟩

/-- The fault of a run that needs more rounds than its bound.  It names the bound, so that the
bound has to be short enough to be written. -/
def boundFault (bound : Int) : Fault :=
  if Decimal.fits bound then .roundLimit bound else .tooLargeToWrite

/-- Derive all that follows from facts, in at most `bound` rounds. -/
def solve (f : Facts) (bound : Int) : Solution :=
  match relations f bound.toNat with
  | .error rounds => ⟨.error (boundFault bound), rounds, []⟩
  | .ok (subset, requires) =>
    let output := answer f subset.tuples requires.tuples
    let rounds := subset.rounds + requires.rounds
    ⟨.ok output, rounds,
      [finished subset.tuples.length requires.tuples.length output.errors.length rounds]⟩

end Liveness

/-- What turns facts into an answer. -/
abbrev Solver := Facts → Liveness.Solution

/-- The solver with a bound on its rounds. -/
def Solver.bounded (bound : Int) : Solver :=
  fun f => Liveness.solve f bound

/-- The solver that is used unless another one is given. -/
def Solver.default : Solver :=
  Solver.bounded Liveness.defaultBound

/-- A solver that gives the same answer to all facts. -/
def Solver.fixed (output : Liveness.Output) : Solver :=
  fun _ => ⟨.ok output, 0, []⟩

end BorrowGraph
