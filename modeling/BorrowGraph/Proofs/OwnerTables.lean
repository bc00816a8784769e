/-
Tables of locals and their regions.

A table has one entry for each local (`IsKeyed`), since giving a local a region replaces the
one it had.  So the table of some pairs has, for each local, the region of its last pair
(`regionOf_ofPairs`), and two entries with one region are two locals that share it.  Asking for
the owner of a region is refused for the shared ones and for no others (`ownerOf_of_isShared`,
`ownerOf_eq_error`).
-/
import BorrowGraph.Proofs.FileTrees
import BorrowGraph.Owners
import Mathlib.Data.List.Induction
import Mathlib.Data.List.Nodup

namespace BorrowGraph

/-! ### Association lists with distinct keys -/

namespace Assoc

variable {κ α : Type} [DecidableEq κ]

theorem mem_keys_put {key key' : κ} {value : α} {entries : List (κ × α)} :
    key' ∈ (put key value entries).map Prod.fst ↔ key' = key ∨ key' ∈ entries.map Prod.fst := by
  induction entries with
  | nil => simp [put]
  | cons x entries ih =>
    obtain ⟨k, v⟩ := x
    rw [put]
    split
    · rename_i hk
      simp [hk]
    · rw [List.map_cons, List.mem_cons, ih, List.map_cons, List.mem_cons]
      exact or_left_comm

theorem nodup_keys_put {key : κ} {value : α} {entries : List (κ × α)}
    (h : (entries.map Prod.fst).Nodup) : ((put key value entries).map Prod.fst).Nodup := by
  induction entries with
  | nil => simp [put]
  | cons x entries ih =>
    obtain ⟨k, v⟩ := x
    rw [List.map_cons, List.nodup_cons] at h
    rw [put]
    split
    · rw [List.map_cons, List.nodup_cons]
      exact h
    · rename_i hk
      rw [List.map_cons, List.nodup_cons, mem_keys_put, not_or]
      exact ⟨⟨hk, h.1⟩, ih h.2⟩

theorem get?_eq_some_iff {entries : List (κ × α)} (h : (entries.map Prod.fst).Nodup) {key : κ}
    {value : α} : get? key entries = some value ↔ (key, value) ∈ entries := by
  induction entries with
  | nil => simp [get?]
  | cons x entries ih =>
    obtain ⟨k, v⟩ := x
    rw [List.map_cons, List.nodup_cons] at h
    rw [get?, List.mem_cons, Prod.mk.injEq]
    split
    · rename_i hk
      subst hk
      have hnot : (k, value) ∉ entries := fun hmem =>
        h.1 (List.mem_map.mpr ⟨(k, value), hmem, rfl⟩)
      rw [Option.some_inj]
      simp [hnot, eq_comm]
    · rename_i hk
      rw [ih h.2]
      simp [Ne.symm hk]

end Assoc

namespace Owners

variable {o : Owners} {r : Region}

/-- Each local has one entry. -/
def IsKeyed (o : Owners) : Prop :=
  (o.regions.map Prod.fst).Nodup

theorem isKeyed_insert (h : o.IsKeyed) (n : Local) (r : Region) : (o.insert n r).IsKeyed :=
  Assoc.nodup_keys_put h

theorem regionOf_insert (o : Owners) (n m : Local) (r : Region) :
    (o.insert n r).regionOf m = if m = n then some r else o.regionOf m :=
  Assoc.get?_put n m r o.regions

/-! ### Pairs given one after the other -/

theorem ofPairs_concat (pairs : List (Local × Region)) (n : Local) (r : Region) :
    ofPairs (pairs ++ [(n, r)]) = (ofPairs pairs).insert n r := by
  rw [ofPairs, Assoc.ofPairs, List.foldl_append]
  rfl

theorem isKeyed_ofPairs (pairs : List (Local × Region)) : (ofPairs pairs).IsKeyed := by
  induction pairs using List.reverseRecOn with
  | nil => exact List.nodup_nil
  | append_singleton pairs x ih =>
    rw [ofPairs_concat]
    exact isKeyed_insert ih x.1 x.2

/-- A pair whose local does not occur again. -/
def IsLast (n : Local) (r : Region) (pairs : List (Local × Region)) : Prop :=
  ∃ before after, pairs = before ++ (n, r) :: after ∧ ∀ x ∈ after, x.1 ≠ n

theorem isLast_concat {n m : Local} {r s : Region} {pairs : List (Local × Region)} :
    IsLast m s (pairs ++ [(n, r)]) ↔ if m = n then s = r else IsLast m s pairs := by
  constructor
  · rintro ⟨before, after, heq, hafter⟩
    rcases List.eq_nil_or_concat after with rfl | ⟨after, x, rfl⟩
    · obtain ⟨-, hlast⟩ := List.append_inj' heq rfl
      obtain ⟨rfl, rfl⟩ := Prod.mk.inj (List.singleton_inj.mp hlast)
      rw [if_pos rfl]
    · rw [List.concat_eq_append, ← List.cons_append, ← List.append_assoc] at heq
      obtain ⟨rfl, hlast⟩ := List.append_inj' heq rfl
      obtain rfl := List.singleton_inj.mp hlast
      rw [if_neg (hafter (n, r) (by simp)).symm]
      exact ⟨before, after, rfl, fun x hx => hafter x (by simp [hx])⟩
  · split
    · rename_i hm
      rintro rfl
      exact ⟨pairs, [], by rw [hm], by simp⟩
    · rename_i hm
      rintro ⟨before, after, rfl, hafter⟩
      refine ⟨before, after ++ [(n, r)], by simp, fun x hx => ?_⟩
      rcases List.mem_append.mp hx with hx | hx
      · exact hafter x hx
      · rw [List.mem_singleton.mp hx]
        exact Ne.symm hm

/-- A local has the region of its last pair. -/
theorem regionOf_ofPairs (pairs : List (Local × Region)) (n : Local) (r : Region) :
    (ofPairs pairs).regionOf n = some r ↔ IsLast n r pairs := by
  induction pairs using List.reverseRecOn with
  | nil => simp [ofPairs, Assoc.ofPairs, regionOf, Assoc.get?, IsLast]
  | append_singleton pairs x ih =>
    obtain ⟨m, s⟩ := x
    rw [ofPairs_concat, regionOf_insert, isLast_concat]
    split
    · rw [Option.some_inj, eq_comm]
    · exact ih

/-- Of two lists of pairs the second one counts, where it has the local. -/
theorem regionOf_ofPairs_append (before after : List (Local × Region)) (n : Local) :
    (ofPairs (before ++ after)).regionOf n =
      ((ofPairs after).regionOf n).or ((ofPairs before).regionOf n) := by
  induction after using List.reverseRecOn with
  | nil =>
    rw [List.append_nil]
    rfl
  | append_singleton after x ih =>
    rw [← List.append_assoc, ofPairs_concat, ofPairs_concat, regionOf_insert, regionOf_insert]
    split
    · rfl
    · exact ih

/-! ### Owners of a region -/

/-- Two locals own a region. -/
def IsShared (o : Owners) (r : Region) : Prop :=
  ∃ n m, n ≠ m ∧ o.regionOf n = some r ∧ o.regionOf m = some r

theorem ownersOf_eq (o : Owners) (r : Region) :
    o.ownersOf r = (o.regions.filter fun x => x.2 = r).map Prod.fst := by
  rw [ownersOf, ← List.filterMap_eq_map, List.filterMap_filter]
  refine List.filterMap_congr fun x _ => ?_
  by_cases hx : x.2 = r
  · simp [hx]
  · simp [hx]

theorem mem_ownersOf (h : o.IsKeyed) {n : Local} : n ∈ o.ownersOf r ↔ o.regionOf n = some r := by
  rw [regionOf, Assoc.get?_eq_some_iff h, ownersOf_eq]
  simp

theorem nodup_ownersOf (h : o.IsKeyed) (r : Region) : (o.ownersOf r).Nodup := by
  rw [ownersOf_eq]
  exact h.sublist (List.filter_sublist.map Prod.fst)

/-- The owner of a region is refused with two locals that own it. -/
theorem ownerOf_eq_error (h : o.IsKeyed) {e : Failure} (he : o.ownerOf r = .error e) :
    ∃ n m, n ≠ m ∧ o.regionOf n = some r ∧ o.regionOf m = some r ∧
      e = sharedFailure r n m := by
  rw [ownerOf] at he
  rcases howners : o.ownersOf r with _ | ⟨n, _ | ⟨m, rest⟩⟩
  · simp [howners] at he
  · simp [howners] at he
  · rw [howners] at he
    have hnodup := nodup_ownersOf h r
    rw [howners, List.nodup_cons] at hnodup
    have hmem : ∀ k ∈ n :: m :: rest, o.regionOf k = some r := fun k hk =>
      (mem_ownersOf h).mp (howners ▸ hk)
    refine ⟨n, m, ?_, hmem n (by simp), hmem m (by simp), (Except.error.inj he).symm⟩
    rintro rfl
    exact hnodup.1 List.mem_cons_self

/-- The owner of a region that two locals own is refused. -/
theorem ownerOf_of_isShared (h : o.IsKeyed) (hr : o.IsShared r) : ∃ e, o.ownerOf r = .error e := by
  obtain ⟨n, m, hne, hn, hm⟩ := hr
  rw [← mem_ownersOf h] at hn hm
  rw [ownerOf]
  rcases howners : o.ownersOf r with _ | ⟨k, _ | ⟨k', rest⟩⟩
  · simp [howners] at hn
  · rw [howners, List.mem_singleton] at hn hm
    exact absurd (hn.trans hm.symm) hne
  · exact ⟨_, rfl⟩

end Owners
end BorrowGraph
