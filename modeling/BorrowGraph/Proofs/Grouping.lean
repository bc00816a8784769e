/-
Sorted maps by points.

What a run derives is given out as maps from points to sets of loans, or to maps from regions
to sets.  They are lists whose keys ascend (`IsMap`), whose sets ascend too (`IsSetMap`,
`IsNestedMap`), and in which no key is bound to nothing.  So a map is determined by what it
holds:

* `entry`: what a key is bound to, nothing for a key that is not bound;
* `mem_entry_group`, `mem_entry_groupTwice`: grouping keeps exactly the given tuples;
* `isSetMap_group`, `isNestedMap_groupTwice`: it yields maps of this form;
* `IsSetMap.ext`, `IsNestedMap.ext`: two of them that hold the same are equal;
* `entry_mapEntries`: a map can be changed entry by entry.
-/
import BorrowGraph.Liveness
import Mathlib.Data.List.Permutation
import Mathlib.Data.List.Sort

namespace BorrowGraph.Liveness

variable {β γ : Type}

/-! ### Ordered lists without repetitions -/

theorem nodup_eraseDups {α : Type} [DecidableEq α] (l : List α) : l.eraseDups.Nodup := by
  induction hn : l.length using Nat.strong_induction_on generalizing l with
  | _ n ih =>
    rcases l with _ | ⟨a, l⟩
    · simp
    · have hlt : (l.filter fun b => !b == a).length < n := by
        rw [← hn, List.length_cons]
        exact Nat.lt_succ_of_le (List.length_filter_le _ _)
      rw [List.eraseDups_cons, List.nodup_cons, List.mem_eraseDups, List.mem_filter]
      exact ⟨by simp, ih _ hlt _ rfl⟩

theorem mem_sortInts_eraseDups {l : List Int} {a : Int} : a ∈ sortInts l.eraseDups ↔ a ∈ l := by
  rw [sortInts, List.mem_mergeSort, List.mem_eraseDups]

theorem ascending_sortInts_eraseDups (l : List Int) :
    (sortInts l.eraseDups).Pairwise (· < ·) := by
  have hle : (sortInts l.eraseDups).Pairwise fun a b => decide (a ≤ b) = true :=
    List.pairwise_mergeSort (by simp only [decide_eq_true_eq]; omega) (by simp; omega) _
  have hne : (sortInts l.eraseDups).Nodup :=
    (List.mergeSort_perm _ _).nodup_iff.mpr (nodup_eraseDups l)
  refine (hle.and hne).imp fun ⟨h, h'⟩ => ?_
  rw [decide_eq_true_eq] at h
  omega

/-! ### Maps -/

/-- What a key is bound to; a key that is not bound has nothing. -/
def entry (k : Int) (m : List (Int × List β)) : List β :=
  ((m.find? fun (a, _) => a = k).map Prod.snd).getD []

@[simp] theorem entry_nil (k : Int) : entry k ([] : List (Int × List β)) = [] := rfl

theorem entry_cons (k a : Int) (v : List β) (m : List (Int × List β)) :
    entry k ((a, v) :: m) = if a = k then v else entry k m := by
  by_cases h : a = k
  · simp [entry, h]
  · simp [entry, h]

/-- The entries of a map that is given by its keys. -/
theorem entry_map (k : Int) (g : Int → List β) (keys : List Int) :
    entry k (keys.map fun a => (a, g a)) = if k ∈ keys then g k else [] := by
  induction keys with
  | nil => simp
  | cons a keys ih =>
    rw [List.map_cons, entry_cons, ih]
    by_cases h : a = k
    · simp [h]
    · have h' : k ≠ a := fun e => h e.symm
      simp [h, h']

/-- The keys ascend and each is bound to something. -/
structure IsMap (m : List (Int × List β)) : Prop where
  ascending : (m.map Prod.fst).Pairwise (· < ·)
  bound : ∀ x ∈ m, x.2 ≠ []

/-- An entry is what its key is bound to. -/
theorem IsMap.entry_eq {m : List (Int × List β)} (h : (m.map Prod.fst).Pairwise (· < ·)) :
    ∀ x ∈ m, entry x.1 m = x.2 := by
  induction m with
  | nil => simp
  | cons y m ih =>
    obtain ⟨a, v⟩ := y
    rw [List.map_cons, List.pairwise_cons] at h
    intro x hx
    rcases List.mem_cons.mp hx with rfl | hx
    · rw [entry_cons, if_pos rfl]
    · have hlt : a < x.1 := h.1 x.1 (List.mem_map_of_mem hx)
      rw [entry_cons, if_neg (by omega), ih h.2 x hx]

theorem entry_eq_nil {m : List (Int × List β)} {k : Int} (h : k ∉ m.map Prod.fst) :
    entry k m = [] := by
  have hnone : m.find? (fun (a, _) => decide (a = k)) = none := by
    rw [List.find?_eq_none]
    intro x hx hxk
    exact h (List.mem_map.mpr ⟨x, hx, by simpa using hxk⟩)
  rw [entry, hnone]
  rfl

theorem IsMap.entry_ne_nil_iff {m : List (Int × List β)} (h : IsMap m) (k : Int) :
    entry k m ≠ [] ↔ k ∈ m.map Prod.fst := by
  constructor
  · intro hk
    by_contra hnot
    exact hk (entry_eq_nil hnot)
  · intro hk
    obtain ⟨x, hx, rfl⟩ := List.mem_map.mp hk
    rw [IsMap.entry_eq h.ascending x hx]
    exact h.bound x hx

/-- A map lists its entries in the order of the keys. -/
theorem IsMap.eq_entries {m : List (Int × List β)} (h : IsMap m) :
    m = (m.map Prod.fst).map fun k => (k, entry k m) := by
  rw [List.map_map]
  refine (List.map_id m).symm.trans (List.map_congr_left fun x hx => ?_)
  simp only [id_eq, Function.comp, IsMap.entry_eq h.ascending x hx]

theorem IsMap.ext {m n : List (Int × List β)} (hm : IsMap m) (hn : IsMap n)
    (h : ∀ k, entry k m = entry k n) : m = n := by
  have hkeys : m.map Prod.fst = n.map Prod.fst := by
    refine hm.ascending.eq_of_mem_iff hn.ascending fun k => ?_
    rw [← hm.entry_ne_nil_iff, ← hn.entry_ne_nil_iff, h]
  rw [hm.eq_entries, hn.eq_entries, hkeys]
  exact List.map_congr_left fun k _ => by rw [h]

/-- A map to sets. -/
structure IsSetMap (m : List (Int × List Int)) : Prop extends IsMap m where
  sets : ∀ k, (entry k m).Pairwise (· < ·)

theorem IsSetMap.ext {m n : List (Int × List Int)} (hm : IsSetMap m) (hn : IsSetMap n)
    (h : ∀ k v, v ∈ entry k m ↔ v ∈ entry k n) : m = n :=
  hm.toIsMap.ext hn.toIsMap fun k => (hm.sets k).eq_of_mem_iff (hn.sets k) (h k)

/-- A map to maps to sets. -/
structure IsNestedMap (m : List (Int × List (Int × List Int))) : Prop extends IsMap m where
  maps : ∀ k, IsSetMap (entry k m)

theorem IsNestedMap.bound_twice {m : List (Int × List (Int × List Int))} (h : IsNestedMap m) :
    ∀ x ∈ m, x.2 ≠ [] ∧ ∀ y ∈ x.2, y.2 ≠ [] := by
  intro x hx
  have hinner := h.maps x.1
  rw [IsMap.entry_eq h.ascending x hx] at hinner
  exact ⟨h.bound x hx, hinner.bound⟩

theorem IsNestedMap.ext {m n : List (Int × List (Int × List Int))} (hm : IsNestedMap m)
    (hn : IsNestedMap n) (h : ∀ p k v, v ∈ entry k (entry p m) ↔ v ∈ entry k (entry p n)) :
    m = n :=
  hm.toIsMap.ext hn.toIsMap fun p => (hm.maps p).ext (hn.maps p) (h p)

/-! ### Entries changed -/

/-- A map with all entries changed, without the keys that are bound to nothing then. -/
def mapEntries (g : List β → List γ) (m : List (Int × List β)) : List (Int × List γ) :=
  (m.map fun x => (x.1, g x.2)).filter fun x => !x.2.isEmpty

theorem isMap_mapEntries (g : List β → List γ) {m : List (Int × List β)}
    (h : (m.map Prod.fst).Pairwise (· < ·)) : IsMap (mapEntries g m) where
  ascending := by
    have hkeys : (m.map fun x => (x.1, g x.2)).map Prod.fst = m.map Prod.fst := by
      rw [List.map_map]
      rfl
    rw [← hkeys] at h
    exact h.sublist (List.filter_sublist.map _)
  bound := by
    intro x hx
    simpa using (List.mem_filter.mp hx).2

theorem entry_mapEntries {g : List β → List γ} (hg : g [] = []) {m : List (Int × List β)}
    (h : (m.map Prod.fst).Pairwise (· < ·)) (k : Int) :
    entry k (mapEntries g m) = g (entry k m) := by
  induction m with
  | nil => rw [entry_nil, hg]; rfl
  | cons x m ih =>
    obtain ⟨a, v⟩ := x
    rw [List.map_cons, List.pairwise_cons] at h
    have hrest := ih h.2
    rw [entry_cons]
    by_cases hnil : g v = []
    · have hdrop : mapEntries g ((a, v) :: m) = mapEntries g m := by
        simp [mapEntries, hnil]
      rw [hdrop, hrest]
      by_cases hak : a = k
      · -- The key is dropped, and no further entry has it.
        have hk : k ∉ m.map Prod.fst := by
          intro hk
          have hlt := h.1 k hk
          omega
        rw [if_pos hak, entry_eq_nil hk, hg, hnil]
      · rw [if_neg hak]
    · have hkeep : mapEntries g ((a, v) :: m) = (a, g v) :: mapEntries g m := by
        simp [mapEntries, hnil]
      rw [hkeep, entry_cons, hrest]
      by_cases hak : a = k
      · rw [if_pos hak, if_pos hak]
      · rw [if_neg hak, if_neg hak]

/-! ### Grouping -/

theorem entry_group (pairs : List (Int × Int)) (k : Int) :
    entry k (group pairs) =
      sortInts (pairs.filterMap fun (a, b) => if a = k then some b else none).eraseDups := by
  rw [group, entry_map]
  split
  · rfl
  · rename_i hk
    have hnil : (pairs.filterMap fun (a, b) => if a = k then some b else none) = [] := by
      rw [List.filterMap_eq_nil_iff]
      rintro ⟨a, b⟩ hab
      have hak : a ≠ k := by
        rintro rfl
        exact hk (mem_sortInts_eraseDups.mpr (List.mem_map_of_mem hab))
      simp [hak]
    rw [hnil]
    simp [sortInts]

/-- Grouping pairs keeps exactly these pairs. -/
theorem mem_entry_group {pairs : List (Int × Int)} {k v : Int} :
    v ∈ entry k (group pairs) ↔ (k, v) ∈ pairs := by
  rw [entry_group, mem_sortInts_eraseDups, List.mem_filterMap]
  constructor
  · rintro ⟨⟨a, b⟩, hab, h⟩
    by_cases hak : a = k
    · simp only [hak, if_true, Option.some_inj] at h
      rwa [← hak, ← h]
    · simp [hak] at h
  · intro h
    exact ⟨(k, v), h, by simp⟩

theorem isSetMap_group (pairs : List (Int × Int)) : IsSetMap (group pairs) where
  ascending := by
    rw [group, List.map_map]
    exact (List.map_id _).symm ▸ ascending_sortInts_eraseDups _
  bound := by
    intro x hx
    obtain ⟨k, hk, rfl⟩ := List.mem_map.mp hx
    obtain ⟨⟨a, b⟩, hab, rfl⟩ := List.mem_map.mp (mem_sortInts_eraseDups.mp hk)
    have hb : b ∈ entry a (group pairs) := mem_entry_group.mpr hab
    rw [entry_group] at hb
    exact List.ne_nil_of_mem hb
  sets := by
    intro k
    rw [entry_group]
    exact ascending_sortInts_eraseDups _

theorem group_eq_nil {pairs : List (Int × Int)} (h : pairs = []) : group pairs = [] := by
  subst h
  simp [group, sortInts]

theorem entry_groupTwice (triples : List (Int × Int × Int)) (p : Int) :
    entry p (groupTwice triples) =
      group (triples.filterMap fun (a, b, q) => if q = p then some (a, b) else none) := by
  rw [groupTwice, entry_map]
  split
  · rfl
  · rename_i hp
    refine (group_eq_nil ?_).symm
    rw [List.filterMap_eq_nil_iff]
    rintro ⟨a, b, q⟩ hq
    have hqp : q ≠ p := by
      rintro rfl
      exact hp (mem_sortInts_eraseDups.mpr (List.mem_map.mpr ⟨(a, b, q), hq, rfl⟩))
    simp [hqp]

/-- Grouping triples keeps exactly these triples. -/
theorem mem_entry_groupTwice {triples : List (Int × Int × Int)} {a b p : Int} :
    b ∈ entry a (entry p (groupTwice triples)) ↔ (a, b, p) ∈ triples := by
  rw [entry_groupTwice, mem_entry_group, List.mem_filterMap]
  constructor
  · rintro ⟨⟨a', b', q⟩, hq, h⟩
    by_cases hqp : q = p
    · simp only [hqp, if_true, Option.some_inj, Prod.mk.injEq] at h
      obtain ⟨rfl, rfl⟩ := h
      rwa [← hqp]
    · simp [hqp] at h
  · intro h
    exact ⟨(a, b, p), h, by simp⟩

theorem isNestedMap_groupTwice (triples : List (Int × Int × Int)) :
    IsNestedMap (groupTwice triples) where
  ascending := by
    rw [groupTwice, List.map_map]
    exact (List.map_id _).symm ▸ ascending_sortInts_eraseDups _
  bound := by
    intro x hx
    obtain ⟨p, hp, rfl⟩ := List.mem_map.mp hx
    obtain ⟨⟨a, b, q⟩, hq, rfl⟩ := List.mem_map.mp (mem_sortInts_eraseDups.mp hp)
    intro hnil
    have hb : b ∈ entry a (entry q (groupTwice triples)) := mem_entry_groupTwice.mpr hq
    simp only at hnil
    rw [entry_groupTwice, hnil] at hb
    simp at hb
  maps := by
    intro p
    rw [entry_groupTwice]
    exact isSetMap_group _

end BorrowGraph.Liveness
