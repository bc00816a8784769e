/-
The points of a body and their numbers.

A table has no repetitions, since the two sides of its register are inverse to each other:
`number` and `resolve` are inverse to each other (`resolve_eq_ok_iff`), and a point is looked
up under its number (`lookup_eq`).  Numbering further points only appends them (`intern_eq_ok`,
`internAll_eq_ok`), so the numbers that were given out stay what they are (`number_of_prefix`).

The blocks of a body are numbered by their positions (`Body.IsNumbered`, which `ofBlocks`
guarantees).  Then its locations are those it contains, each listed once (`mem_locations_iff`,
`nodup_locations`), and after the points of a body are numbered each of them has a number
(`numberPoints_eq_ok`).
-/
import BorrowGraph.Analysis
import Mathlib.Data.List.Nodup

namespace BorrowGraph

namespace PointTable

variable {t t' t'' : PointTable} {p : Point} {i : Int}

/-! ### Numbers and points -/

theorem eq_of_register (h : t.toPointRegister = t'.toPointRegister) : t = t' := by
  cases t
  cases t'
  cases h
  rfl

/-- The number of a point that is in the table. -/
def number (t : PointTable) (p : Point) : Int :=
  (t.points.idxOf p : Nat)

theorem resolve_eq_ok : t.resolve i = .ok p ↔ 0 ≤ i ∧ t.points[i.toNat]? = some p :=
  PointRegister.resolve_eq_ok

theorem resolve_number (hp : p ∈ t.points) : t.resolve (t.number p) = .ok p := by
  rw [resolve_eq_ok, number, Int.toNat_natCast]
  exact ⟨Int.natCast_nonneg _, List.getElem?_idxOf hp⟩

/-- A point that stood at two places would have two numbers. -/
theorem nodup (t : PointTable) : t.points.Nodup := by
  rw [List.Nodup, List.pairwise_iff_getElem]
  intro i j hi hj hij heq
  have hnumber : ∀ (k : Nat) (hk : k < t.points.length), t.lookup t.points[k] = some (k : Int) := by
    intro k hk
    rw [t.inverse, PointRegister.resolve_eq_ok, Int.toNat_natCast]
    exact ⟨Int.natCast_nonneg k, List.getElem?_eq_getElem hk⟩
  have hboth := hnumber j hj
  rw [← heq, hnumber i hi, Option.some_inj] at hboth
  omega

/-- A number stands for one point, and a point has one number. -/
theorem resolve_eq_ok_iff : t.resolve i = .ok p ↔ p ∈ t.points ∧ t.number p = i := by
  constructor
  · intro h
    obtain ⟨hi, hget⟩ := resolve_eq_ok.mp h
    obtain ⟨hlt, rfl⟩ := List.getElem?_eq_some_iff.mp hget
    refine ⟨List.getElem_mem hlt, ?_⟩
    rw [number, t.nodup.idxOf_getElem]
    omega
  · rintro ⟨hp, rfl⟩
    exact resolve_number hp

theorem lookup_eq_some_iff : t.lookup p = some i ↔ p ∈ t.points ∧ t.number p = i :=
  (t.inverse p i).trans resolve_eq_ok_iff

theorem lookup_eq (t : PointTable) (p : Point) :
    t.lookup p = if p ∈ t.points then some (t.number p) else none := by
  split
  · rename_i hp
    exact lookup_eq_some_iff.mpr ⟨hp, rfl⟩
  · rename_i hp
    rw [Option.eq_none_iff_forall_ne_some]
    exact fun i hi => hp (lookup_eq_some_iff.mp hi).1

/-- A number stays valid when points are appended. -/
theorem number_of_prefix (h : t.points <+: t'.points) (hp : p ∈ t.points) :
    t'.number p = t.number p := by
  obtain ⟨rest, hrest⟩ := h
  rw [number, number, ← hrest, List.idxOf_append_of_mem hp]

/-! ### Numbering points -/

/-- The table after a point was met. -/
def meet (t : PointTable) (p : Point) : PointTable :=
  (t.intern p).1

theorem intern_of_register {x : Except Failure Int}
    (h : t.toPointRegister.intern p = (t'.toPointRegister, x)) : t.intern p = (t', x) := by
  have htable : (t.intern p).1 = t' := eq_of_register (congrArg Prod.fst h)
  have hnumber : (t.intern p).2 = x := congrArg Prod.snd h
  rw [← htable, ← hnumber]

theorem intern_of_mem (hp : p ∈ t.points) : t.intern p = (t, .ok (t.number p)) := by
  refine intern_of_register ?_
  simp only [PointRegister.intern, lookup_eq, if_pos hp]

theorem intern_of_frozen (ht : t.frozen = true) (hp : p ∉ t.points) :
    t.intern p = (t, .error (lateFailure p)) := by
  refine intern_of_register ?_
  simp only [PointRegister.intern, lookup_eq, if_neg hp, ht, if_true]

theorem meet_of_mem (hp : p ∈ t.points) : t.meet p = t := by
  rw [meet, intern_of_mem hp]

section Open

variable (ht : t.frozen = false) (hp : p ∉ t.points)
include ht hp

theorem intern_of_new : t.toPointRegister.intern p =
    (t.toPointRegister.enter p, .ok (t.points.length : Int)) := by
  simp [PointRegister.intern, lookup_eq, hp, ht]

theorem register_meet : (t.meet p).toPointRegister = t.toPointRegister.enter p :=
  congrArg Prod.fst (intern_of_new ht hp)

theorem points_meet : (t.meet p).points = t.points ++ [p] := by
  rw [register_meet ht hp]
  rfl

theorem frozen_meet : (t.meet p).frozen = t.frozen := by
  rw [register_meet ht hp]
  rfl

end Open

/-- A table that is not frozen numbers every point. -/
theorem intern_of_open (ht : t.frozen = false) (p : Point) :
    t.intern p = (t.meet p, .ok ((t.meet p).number p)) := by
  by_cases hp : p ∈ t.points
  · rw [meet_of_mem hp, intern_of_mem hp]
  · have hnumber : (t.meet p).number p = t.points.length := by
      rw [number, points_meet ht hp, List.idxOf_append_of_notMem hp]
      simp
    rw [hnumber]
    refine intern_of_register ?_
    rw [intern_of_new ht hp, register_meet ht hp]

/-- A table to which points may have been appended, unless it is frozen. -/
structure Extends (t t' : PointTable) : Prop where
  appended : t.points <+: t'.points
  frozen : t'.frozen = t.frozen
  kept : t.frozen = true → t' = t

theorem Extends.refl (t : PointTable) : t.Extends t where
  appended := List.prefix_refl _
  frozen := rfl
  kept := fun _ => rfl

theorem Extends.trans (h : t.Extends t') (h' : t'.Extends t'') : t.Extends t'' where
  appended := h.appended.trans h'.appended
  frozen := h'.frozen.trans h.frozen
  kept := by
    intro ht
    rw [h'.kept (h.frozen.trans ht), h.kept ht]

/-- A table with further points. -/
structure Grows (t : PointTable) (ps : List Point) (t' : PointTable) : Prop
    extends Extends t t' where
  mem_iff : ∀ q, q ∈ t'.points ↔ q ∈ t.points ∨ q ∈ ps

theorem Grows.refl (t : PointTable) : t.Grows [] t where
  toExtends := Extends.refl t
  mem_iff := by simp

theorem Grows.trans {ps qs : List Point} (h : t.Grows ps t') (h' : t'.Grows qs t'') :
    t.Grows (ps ++ qs) t'' where
  toExtends := h.toExtends.trans h'.toExtends
  mem_iff := by
    intro q
    rw [h'.mem_iff, h.mem_iff, List.mem_append, or_assoc]

/-- A frozen table can only meet the points it has. -/
theorem grows_meet (h : t.frozen = true → p ∈ t.points) : t.Grows [p] (t.meet p) := by
  by_cases hp : p ∈ t.points
  · rw [meet_of_mem hp]
    refine ⟨Extends.refl t, fun q => ?_⟩
    rw [List.mem_singleton, or_iff_left_of_imp]
    rintro rfl
    exact hp
  · have ht : t.frozen = false := Bool.eq_false_iff.mpr fun ht => hp (h ht)
    have hpoints := points_meet ht hp
    refine ⟨⟨⟨[p], hpoints.symm⟩, frozen_meet ht hp, fun hfrozen => ?_⟩, fun q => ?_⟩
    · exact absurd (h hfrozen) hp
    · rw [hpoints, List.mem_append]

/-- What numbering a point can do: it is numbered, or it is new and the table is frozen. -/
theorem intern_cases (t : PointTable) (p : Point) :
    t.intern p = (t.meet p, .ok ((t.meet p).number p)) ∧ t.Grows [p] (t.meet p) ∨
      t.intern p = (t, .error (lateFailure p)) ∧ t.frozen = true ∧ p ∉ t.points := by
  by_cases hp : p ∈ t.points
  · refine .inl ⟨?_, grows_meet fun _ => hp⟩
    rw [meet_of_mem hp, intern_of_mem hp]
  · rcases ht : t.frozen with _ | _
    · exact .inl ⟨intern_of_open ht p, grows_meet (by simp [ht])⟩
    · exact .inr ⟨intern_of_frozen ht hp, rfl, hp⟩

theorem intern_eq_ok (h : t.intern p = (t', .ok i)) : t.Grows [p] t' ∧ i = t'.number p := by
  rcases intern_cases t p with ⟨hintern, hgrows⟩ | ⟨hintern, -⟩
  · obtain ⟨rfl, hi⟩ := Prod.mk.inj (hintern.symm.trans h)
    exact ⟨hgrows, (Except.ok.inj hi).symm⟩
  · cases hintern.symm.trans h

end PointTable

/-! ### The locations of a body -/

namespace Body

/-- The blocks are numbered by their positions. -/
def IsNumbered (b : Body) : Prop :=
  ∀ (i : Nat) (block : Block), b.blocks[i]? = some block → block.index = i

theorem index_of_misplaced? {start : Nat} {blocks : List Block}
    (h : misplaced? start blocks = none) (i : Nat) (block : Block)
    (hblock : blocks[i]? = some block) : block.index = ((start + i : Nat) : Int) := by
  induction blocks generalizing start i with
  | nil => simp at hblock
  | cons b blocks ih =>
    rw [misplaced?] at h
    split at h
    · rename_i hb
      rcases i with _ | i
      · simp only [List.getElem?_cons_zero, Option.some_inj] at hblock
        rw [← hblock, hb, Nat.add_zero]
      · rw [List.getElem?_cons_succ] at hblock
        rw [ih h i hblock, Nat.add_right_comm, Nat.add_assoc]
    · simp at h

/-- A body that is put together from blocks is numbered. -/
theorem isNumbered_ofBlocks {blocks : List Block} {locals : List LocalDecl} {b : Body}
    (h : ofBlocks blocks locals = .ok b) : b.IsNumbered := by
  rw [ofBlocks] at h
  split at h
  · simp at h
  · rename_i hnone
    obtain rfl := Except.ok.inj h
    intro i block hblock
    simpa using index_of_misplaced? hnone i block hblock

section Numbered

variable {b : Body} (hb : b.IsNumbered)
include hb

theorem IsNumbered.mem_blocks {block : Block} (h : block ∈ b.blocks) :
    0 ≤ block.index ∧ b.blocks[block.index.toNat]? = some block := by
  obtain ⟨i, hi⟩ := List.mem_iff_getElem?.mp h
  rw [hb i block hi]
  exact ⟨Int.natCast_nonneg i, hi⟩

omit hb in
theorem mem_locations_block {block : Block} {l : Location} :
    l ∈ block.locations ↔
      l.block = block.index ∧ 0 ≤ l.index ∧ l.index ≤ block.statements.length := by
  obtain ⟨n, j⟩ := l
  simp only [Block.locations, List.mem_map, List.mem_range, Location.mk.injEq]
  constructor
  · rintro ⟨i, hi, rfl, rfl⟩
    exact ⟨rfl, by omega, by omega⟩
  · rintro ⟨rfl, hj, hle⟩
    exact ⟨j.toNat, by omega, rfl, by omega⟩

/-- The locations of a body are exactly those it contains. -/
theorem IsNumbered.mem_locations_iff {l : Location} :
    l ∈ b.locations ↔ b.contains l = true := by
  simp only [locations, List.mem_flatMap, mem_locations_block]
  constructor
  · rintro ⟨block, hblock, hindex, hnonneg, hle⟩
    obtain ⟨hpos, hget⟩ := hb.mem_blocks hblock
    rw [← hindex] at hpos hget
    simp [contains, Int.not_lt.mpr hpos, hget, hnonneg, hle]
  · intro h
    rw [contains] at h
    split at h
    · simp at h
    · rename_i hneg
      split at h
      · simp at h
      · rename_i block hget
        rw [Bool.and_eq_true, decide_eq_true_eq, decide_eq_true_eq] at h
        refine ⟨block, List.mem_of_getElem? hget, ?_, h⟩
        rw [hb _ _ hget]
        omega

theorem IsNumbered.nodup_locations : b.locations.Nodup := by
  rw [locations, List.nodup_flatMap]
  constructor
  · intro block _
    refine List.Nodup.map ?_ List.nodup_range
    intro i j hij
    exact Int.ofNat_inj.mp (Location.mk.inj hij).2
  · rw [List.pairwise_iff_getElem]
    intro i j hi hj hij l hl hl'
    rw [mem_locations_block] at hl hl'
    have hi' := hb i _ (List.getElem?_eq_getElem hi)
    have hj' := hb j _ (List.getElem?_eq_getElem hj)
    omega

end Numbered

end Body

/-! ### The points of a body -/

namespace Analysis

open PointTable

theorem mem_bodyPoints {body : Body} {p : Point} :
    p ∈ bodyPoints body ↔ p.location ∈ body.locations := by
  obtain ⟨l, phase⟩ := p
  simp only [bodyPoints, List.mem_flatMap, List.mem_cons, List.not_mem_nil, or_false,
    Point.mk.injEq]
  constructor
  · rintro ⟨l', hl, h | h⟩
    · exact h.1 ▸ hl
    · exact h.1 ▸ hl
  · intro hl
    cases phase with
    | start => exact ⟨l, hl, .inl ⟨rfl, rfl⟩⟩
    | mid => exact ⟨l, hl, .inr ⟨rfl, rfl⟩⟩

theorem nodup_bodyPoints {body : Body} (hb : body.IsNumbered) : (bodyPoints body).Nodup := by
  rw [bodyPoints, List.nodup_flatMap]
  refine ⟨fun l _ => by simp, hb.nodup_locations.imp fun {l l'} hne p hp hp' => ?_⟩
  simp only [List.mem_cons, List.not_mem_nil, or_false] at hp hp'
  refine hne ?_
  rcases hp with rfl | rfl
  · rcases hp' with h | h <;> exact (Point.mk.inj h).1
  · rcases hp' with h | h <;> exact (Point.mk.inj h).1

theorem internAll_eq_ok {t t' : PointTable} {ps : List Point} (h : internAll t ps = .ok t') :
    t.Grows ps t' := by
  induction ps generalizing t with
  | nil =>
    obtain rfl := Except.ok.inj h
    exact Grows.refl t
  | cons p ps ih =>
    rw [internAll] at h
    rcases hp : t.intern p with ⟨t₁, e | i⟩
    · rw [hp] at h
      cases h
    · rw [hp] at h
      exact (intern_eq_ok hp).1.trans (ih h)

theorem internAll_of_open {t : PointTable} (ht : t.frozen = false) (ps : List Point) :
    ∃ t', internAll t ps = .ok t' := by
  induction ps generalizing t with
  | nil => exact ⟨t, rfl⟩
  | cons p ps ih =>
    have hgrows := grows_meet (t := t) (p := p) (by simp [ht])
    obtain ⟨t', h⟩ := ih (hgrows.frozen.trans ht)
    refine ⟨t', ?_⟩
    rw [internAll, intern_of_open ht]
    exact h

/-- Numbering the points of a body keeps all numbers and gives each point of the body one. -/
theorem numberPoints_eq_ok {t t' : PointTable} {body : Body} (h : numberPoints t body = .ok t') :
    t.points <+: t'.points ∧ ∀ q, q ∈ t'.points ↔ q ∈ t.points ∨ q ∈ bodyPoints body := by
  rw [numberPoints] at h
  rcases hall : internAll t (bodyPoints body) with d | t₁
  · rw [hall] at h
    exact absurd h (by simp [bind, Except.bind])
  · rw [hall] at h
    have hgrows := internAll_eq_ok hall
    obtain rfl := Except.ok.inj h
    exact ⟨hgrows.appended, hgrows.mem_iff⟩

theorem numberPoints_of_open {t : PointTable} (ht : t.frozen = false) (body : Body) :
    ∃ t', numberPoints t body = .ok t' := by
  obtain ⟨t', h⟩ := internAll_of_open ht (bodyPoints body)
  refine ⟨t'.freeze, ?_⟩
  rw [numberPoints, h]
  rfl

end Analysis
end BorrowGraph
