/-
The standard library follows the rules.

Merging puts the values of the upper layer into the lower one in turn (`mergeFields_cons`), so
that a key which occurs once above has its value there, and any other key that below
(`get?_mergeFields`).  By induction over the layers, each key has the value of the first layer
that has it (`get?_foldl`).  The layers that are merged spell the keys alike and keep the
unknown ones (`get?_layerOf`, `mem_keys_layerOf`), which makes the merged values those that
count (`merges_mergeAll`).
-/
import BorrowGraph.Proofs.OwnerTables
import BorrowGraph.Proofs.SettingsLaws
import BorrowGraph.Settings.Standard

namespace BorrowGraph.Settings.Standard

/-! ### Keys and their spellings -/

theorem mem_all (k : Key) : k ∈ Key.all := by
  cases k <;> decide

theorem text_injective {k k' : Key} (h : k.text = k'.text) : k = k' := by
  cases k <;> cases k' <;> first | rfl | exact absurd h (by decide)

theorem lower_text (k : Key) : Text.lower k.text = k.text := by
  cases k <;> decide

theorem spells_iff {name : String} {k : Key} :
    Library.standard.Spells name k ↔ Text.lower name = k.text := by
  show Text.lower name = Text.lower k.text ↔ _
  rw [lower_text]

theorem spells_of_keyOf? {name : String} {k : Key} (h : keyOf? name = some k) :
    Library.standard.Spells name k := by
  have hk := List.find?_some h
  exact spells_iff.mpr (of_decide_eq_true hk).symm

theorem keyOf?_eq_some_iff {name : String} {k : Key} :
    keyOf? name = some k ↔ Library.standard.Spells name k := by
  refine ⟨spells_of_keyOf?, fun h => ?_⟩
  rw [spells_iff] at h
  have hfound : (keyOf? name).isSome := by
    rw [keyOf?, List.find?_isSome]
    exact ⟨k, mem_all k, decide_eq_true h.symm⟩
  obtain ⟨k', hk'⟩ := Option.isSome_iff_exists.mp hfound
  rw [hk', text_injective ((spells_iff.mp (spells_of_keyOf? hk')).symm.trans h)]

theorem isUnknown_iff {name : String} :
    Library.standard.IsUnknown name ↔ (keyOf? name).isNone = true := by
  rw [Option.isNone_iff_eq_none, Option.eq_none_iff_forall_ne_some]
  exact forall_congr' fun k => not_congr keyOf?_eq_some_iff.symm

/-! ### What layers set -/

theorem valueOf?_eq_some_iff {layer : Layer} {k : Key} {v : Value} :
    valueOf? layer k = some v ↔ Library.standard.Gives layer k v := by
  rw [valueOf?, Option.map_eq_some_iff]
  constructor
  · rintro ⟨⟨name, v'⟩, hfind, rfl⟩
    obtain ⟨hname, before, after, rfl, hbefore⟩ := List.find?_eq_some_iff_append.mp hfind
    refine ⟨before, name, after, rfl, keyOf?_eq_some_iff.mp (of_decide_eq_true hname),
      fun x hx hspells => ?_⟩
    have hnot := hbefore x hx
    simp [keyOf?_eq_some_iff.mpr hspells] at hnot
  · rintro ⟨before, name, after, rfl, hname, hbefore⟩
    refine ⟨(name, v), List.find?_eq_some_iff_append.mpr
      ⟨?_, before, after, rfl, fun x hx => ?_⟩, rfl⟩
    · exact decide_eq_true (keyOf?_eq_some_iff.mpr hname)
    · simpa [keyOf?_eq_some_iff] using hbefore x hx

/-- The last element with a property. -/
theorem getLast?_filter_eq_some_iff {α : Type} {p : α → Bool} {xs : List α} {a : α} :
    (xs.filter p).getLast? = some a ↔
      p a = true ∧ ∃ before after, xs = before ++ a :: after ∧ ∀ x ∈ after, p x = false := by
  rw [← List.head?_reverse, ← List.filter_reverse, List.head?_filter, List.find?_eq_some_iff_append]
  refine and_congr_right fun _ => ?_
  constructor
  · rintro ⟨after, before, hxs, hafter⟩
    refine ⟨before.reverse, after.reverse, ?_,
      fun x hx => by simpa using hafter x (List.mem_reverse.mp hx)⟩
    rw [← List.reverse_reverse xs, hxs]
    simp
  · rintro ⟨before, after, rfl, hafter⟩
    exact ⟨after.reverse, before.reverse, by simp,
      fun x hx => by simp [hafter x (List.mem_reverse.mp hx)]⟩

theorem environmentValue?_eq_some_iff {environment : List (String × String)} {k : Key} {v : Value} :
    environmentValue? {} variableStart environment k = some v ↔
      ∃ s, Library.standard.VariableGives environment k s ∧ v = .text s := by
  have hcounts : ∀ n s : String,
      (decide (Reading.fold {} n = Reading.fold {} (variableStart ++ k.text)) &&
        Reading.counts {} s) = true ↔ Library.standard.NamesVariable n k ∧ s ≠ "" := by
    intro n s
    simp [Reading.fold, Reading.counts, Library.NamesVariable, Library.standard]
  rw [environmentValue?, Option.map_eq_some_iff]
  simp only [getLast?_filter_eq_some_iff]
  constructor
  · rintro ⟨⟨name, s⟩, ⟨hname, before, after, rfl, hafter⟩, rfl⟩
    obtain ⟨hname, hs⟩ := (hcounts name s).mp hname
    refine ⟨s, ⟨before, name, after, rfl, hname, hs, fun x hx hvariable => ?_⟩, rfl⟩
    by_contra hne
    exact absurd ((hcounts x.1 x.2).mpr ⟨hvariable, hne⟩)
      (by rw [hafter x hx]; exact Bool.false_ne_true)
  · rintro ⟨s, ⟨before, name, after, rfl, hname, hs, hafter⟩, rfl⟩
    refine ⟨(name, s), ⟨(hcounts name s).mpr ⟨hname, hs⟩, before, after, rfl, fun x hx => ?_⟩, rfl⟩
    rw [← Bool.not_eq_true, hcounts]
    exact fun h => h.2 (hafter x hx h.1)

/-! ### Merging -/

theorem alike_refl (v : Option Value) : Option.Rel Alike v v := by
  cases v with
  | none => exact .none
  | some v => exact .some (.same v)

theorem alike_mergeOver (w v : Value) : Alike (mergeOver w v) v := by
  cases v with
  | table upper =>
    cases w with
    | table lower =>
      rw [mergeOver]
      exact .tables _ _
    | _ =>
      rw [mergeOver]
      · exact .same _
      · rintro lower ⟨⟩
  | _ =>
    rw [mergeOver]
    · exact .same _
    · rintro upper ⟨⟩

/-- Merging puts the values of the upper layer into the lower one in turn, as they are or
merged with tables. -/
theorem mergeFields_cons (base : Layer) (name : String) (v : Value) (upper : Layer) :
    ∃ m, Alike m v ∧ mergeFields base ((name, v) :: upper) =
      mergeFields (Assoc.put name m base) upper := by
  rw [mergeFields]
  refine ⟨_, ?_, rfl⟩
  split
  · exact alike_mergeOver _ v
  · exact .same v

/-- A key occurs at most once. -/
def Once (name : String) (layer : Layer) : Prop :=
  (layer.map Prod.fst).count name ≤ 1

theorem keys_put_of_mem {name : String} {v : Value} {layer : Layer}
    (h : name ∈ layer.map Prod.fst) :
    (Assoc.put name v layer).map Prod.fst = layer.map Prod.fst := by
  induction layer with
  | nil => cases h
  | cons x layer ih =>
    obtain ⟨k, w⟩ := x
    rw [Assoc.put]
    split
    · rfl
    · rename_i hk
      rw [List.map_cons, List.mem_cons] at h
      rw [List.map_cons, List.map_cons, ih (h.resolve_left (Ne.symm hk))]

section Once

variable {name : String} {layer base upper : Layer}

theorem once_put (h : Once name layer) (name' : String) (v : Value) :
    Once name (Assoc.put name' v layer) := by
  rw [Once]
  by_cases hmem : name' ∈ layer.map Prod.fst
  · rw [keys_put_of_mem hmem]
    exact h
  · rw [Assoc.put_of_not_mem hmem, List.map_append, List.count_append, List.map_singleton]
    by_cases heq : name' = name
    · subst heq
      rw [List.count_eq_zero.mpr hmem, List.count_singleton_self]
    · rw [List.count_singleton, if_neg (by simpa using heq)]
      exact h

theorem once_mergeFields (h : Once name base) : Once name (mergeFields base upper) := by
  induction upper generalizing base with
  | nil =>
    rw [mergeFields]
    exact h
  | cons x upper ih =>
    obtain ⟨m, -, hm⟩ := mergeFields_cons base x.1 x.2 upper
    rw [hm]
    exact ih (once_put h x.1 m)

theorem mem_keys_mergeFields :
    name ∈ (mergeFields base upper).map Prod.fst ↔
      name ∈ base.map Prod.fst ∨ name ∈ upper.map Prod.fst := by
  induction upper generalizing base with
  | nil => simp [mergeFields]
  | cons x upper ih =>
    obtain ⟨m, -, hm⟩ := mergeFields_cons base x.1 x.2 upper
    rw [hm, ih, Assoc.mem_keys_put, List.map_cons, List.mem_cons, or_assoc]
    exact or_left_comm

theorem get?_mergeFields_of_not_mem (h : name ∉ upper.map Prod.fst) :
    Assoc.get? name (mergeFields base upper) = Assoc.get? name base := by
  induction upper generalizing base with
  | nil => rw [mergeFields]
  | cons x upper ih =>
    obtain ⟨m, -, hm⟩ := mergeFields_cons base x.1 x.2 upper
    rw [List.map_cons, List.mem_cons, not_or] at h
    rw [hm, ih h.2, Assoc.get?_put, if_neg h.1]

/-- A key that occurs once in the upper layer has its value there, and any other key that in
the lower one. -/
theorem get?_mergeFields (base : Layer) (h : Once name upper) :
    Option.Rel Alike (Assoc.get? name (mergeFields base upper))
      ((Assoc.get? name upper).or (Assoc.get? name base)) := by
  induction upper generalizing base with
  | nil =>
    rw [mergeFields, Assoc.get?, Option.none_or]
    exact alike_refl _
  | cons x upper ih =>
    obtain ⟨k, v⟩ := x
    obtain ⟨m, halike, hm⟩ := mergeFields_cons base k v upper
    rw [Once, List.map_cons, List.count_cons] at h
    rw [hm, Assoc.get?]
    by_cases hk : k = name
    · -- There is no other value for the key above.
      subst hk
      have hrest : k ∉ upper.map Prod.fst := by
        rw [← List.count_eq_zero]
        simp only [BEq.rfl, if_true] at h
        omega
      rw [get?_mergeFields_of_not_mem hrest, Assoc.get?_put, if_pos rfl, if_pos rfl, Option.some_or]
      exact .some halike
    · have hbase : Assoc.get? name base = Assoc.get? name (Assoc.put k m base) := by
        rw [Assoc.get?_put, if_neg (Ne.symm hk)]
      rw [if_neg hk, hbase]
      exact ih _ (Nat.le_trans (Nat.le_add_right _ _) h)

end Once

/-! ### Merged layers -/

/-- The known keys in their order, with their values. -/
def knownPart (values : Key → Option Value) : Layer :=
  Key.all.filterMap fun k => (values k).map fun v => (k.text, v)

theorem keys_knownPart (values : Key → Option Value) :
    (knownPart values).map Prod.fst = (Key.all.filter fun k => (values k).isSome).map Key.text := by
  rw [knownPart]
  induction Key.all with
  | nil => rfl
  | cons k ks ih =>
    rw [List.filterMap_cons, List.filter_cons]
    cases values k with
    | none => exact ih
    | some v =>
      rw [Option.map_some, List.map_cons, ih]
      rfl

theorem once_knownPart (values : Key → Option Value) (name : String) :
    Once name (knownPart values) := by
  have hnodup : (Key.all.map Key.text).Nodup := by decide
  rw [Once, keys_knownPart]
  exact List.nodup_iff_count_le_one.mp (hnodup.sublist (List.filter_sublist.map _)) name

theorem not_mem_knownPart (values : Key → Option Value) {name : String}
    (h : ∀ k : Key, name ≠ k.text) :
    name ∉ (knownPart values).map Prod.fst := by
  rw [keys_knownPart]
  intro hmem
  obtain ⟨k, -, rfl⟩ := List.mem_map.mp hmem
  exact h k rfl

theorem get?_knownPart (values : Key → Option Value) (k : Key) :
    Assoc.get? k.text (knownPart values) = values k := by
  have hlist : ∀ ks : List Key,
      Assoc.get? k.text (ks.filterMap fun k => (values k).map fun v => (k.text, v)) =
      if k ∈ ks then values k else none := by
    intro ks
    induction ks with
    | nil => rfl
    | cons k' ks ih =>
      rw [List.filterMap_cons]
      by_cases hk : k' = k
      · subst hk
        cases hv : values k' with
        | none => simp [ih, hv]
        | some v => simp [Assoc.get?]
      · have htext : k'.text ≠ k.text := fun h => hk (text_injective h)
        cases values k' with
        | none => simp [ih, Ne.symm hk]
        | some v => simp [ih, Ne.symm hk, Assoc.get?, htext]
  rw [knownPart, hlist, if_pos (mem_all k)]

theorem get?_append (name : String) (layer layer' : Layer) :
    Assoc.get? name (layer ++ layer') = (Assoc.get? name layer).or (Assoc.get? name layer') := by
  induction layer with
  | nil => rfl
  | cons x layer ih =>
    rw [List.cons_append, Assoc.get?, Assoc.get?]
    split
    · rfl
    · exact ih

theorem get?_of_not_mem {name : String} {layer : Layer} (h : name ∉ layer.map Prod.fst) :
    Assoc.get? name layer = none := by
  induction layer with
  | nil => rfl
  | cons x layer ih =>
    rw [List.map_cons, List.mem_cons, not_or] at h
    rw [Assoc.get?, if_neg (Ne.symm h.1), ih h.2]

theorem normalize_eq (layer : Layer) :
    normalize layer = knownPart (valueOf? layer) ++ layer.filter fun x => (keyOf? x.1).isNone := rfl

theorem text_not_mem_unknown (layer : Layer) (k : Key) :
    k.text ∉ (layer.filter fun x => (keyOf? x.1).isNone).map Prod.fst := by
  intro h
  obtain ⟨x, hx, hname⟩ := List.mem_map.mp h
  have hunknown := isUnknown_iff.mpr (List.mem_filter.mp hx).2
  exact hunknown k (hname ▸ spells_text _ k)

theorem get?_normalize (layer : Layer) (k : Key) :
    Assoc.get? k.text (normalize layer) = valueOf? layer k := by
  rw [normalize_eq, get?_append, get?_knownPart, get?_of_not_mem (text_not_mem_unknown layer k),
    Option.or_none]

theorem once_normalize (layer : Layer) (k : Key) : Once k.text (normalize layer) := by
  rw [Once, normalize_eq, List.map_append, List.count_append,
    List.count_eq_zero.mpr (text_not_mem_unknown layer k)]
  exact once_knownPart _ _

theorem mem_keys_normalize {layer : Layer} {name : String} (h : ∀ k : Key, name ≠ k.text) :
    name ∈ (normalize layer).map Prod.fst ↔
      Library.standard.IsUnknown name ∧ name ∈ layer.map Prod.fst := by
  rw [normalize_eq, List.map_append, List.mem_append, or_iff_right (not_mem_knownPart _ h)]
  simp only [List.mem_map, List.mem_filter]
  constructor
  · rintro ⟨x, ⟨hx, hunknown⟩, rfl⟩
    exact ⟨isUnknown_iff.mpr hunknown, x, hx, rfl⟩
  · rintro ⟨hunknown, x, hx, rfl⟩
    exact ⟨x, ⟨hx, isUnknown_iff.mp hunknown⟩, rfl⟩

theorem alike_trans {u v w : Value} (h : Alike u v) (h' : Alike v w) : Alike u w := by
  cases h with
  | same => exact h'
  | tables fields fields' =>
    cases h' with
    | same => exact .tables _ _
    | tables => exact .tables _ _

/-- The value that counts for a key is known of merged layers if it is known of both. -/
theorem get?_mergeFields_alike {name : String} {base upper : Layer} {high low : Option Value}
    (honce : Once name upper) (hhigh : Option.Rel Alike (Assoc.get? name upper) high)
    (hlow : Assoc.get? name base = low) :
    Option.Rel Alike (Assoc.get? name (mergeFields base upper)) (high.or low) := by
  have hmerged := get?_mergeFields base honce
  rw [hlow] at hmerged
  generalize Assoc.get? name upper = found at hhigh hmerged
  cases hhigh with
  | none => exact hmerged
  | some halike =>
    rw [Option.some_or] at hmerged ⊢
    generalize Assoc.get? name (mergeFields base upper) = merged at hmerged
    cases hmerged with
    | some h => exact .some (alike_trans h halike)

/-- The first of several layers that has a key counts. -/
theorem get?_foldl {name : String} {layers : List Layer}
    (hlayers : ∀ layer ∈ layers, Once name layer)
    {upper : Layer} {high : Option Value} (hupper : Once name upper)
    (hhigh : Option.Rel Alike (Assoc.get? name upper) high) :
    Option.Rel Alike
      (Assoc.get? name (layers.foldl (fun upper lower => mergeFields lower upper) upper))
      (high.or (layers.findSome? (Assoc.get? name))) := by
  induction layers generalizing upper high with
  | nil =>
    rw [List.findSome?_nil, Option.or_none]
    exact hhigh
  | cons layer layers ih =>
    rw [List.forall_mem_cons] at hlayers
    have hmerged := ih hlayers.2 (once_mergeFields hlayers.1)
      (get?_mergeFields_alike hupper hhigh rfl)
    rw [Option.or_assoc] at hmerged
    have hfirst : (layer :: layers).findSome? (Assoc.get? name) =
        (Assoc.get? name layer).or (layers.findSome? (Assoc.get? name)) := by
      rw [List.findSome?_cons]
      cases Assoc.get? name layer <;> rfl
    rw [hfirst]
    exact hmerged

theorem mem_keys_foldl {name : String} {layers : List Layer} {upper : Layer} :
    name ∈ (layers.foldl (fun upper lower => mergeFields lower upper) upper).map Prod.fst ↔
      name ∈ upper.map Prod.fst ∨ ∃ layer ∈ layers, name ∈ layer.map Prod.fst := by
  induction layers generalizing upper with
  | nil => simp
  | cons layer layers ih =>
    rw [List.foldl_cons, ih, mem_keys_mergeFields, List.exists_mem_cons_iff, ← or_assoc]
    exact or_congr_left or_comm

/-! ### Sources -/

/-- The layer of a source, when no reserved key is given. -/
def plainLayer (l : Layers) : Source → Layer
  | .given => normalize l.given
  | .environment => knownPart (environmentValue? {} variableStart l.environment)
  | .file fields => normalize fields

section Sources

variable {l : Layers} {k : Key} {name : String}

theorem get?_plainLayer {source : Source} {v : Value} :
    Assoc.get? k.text (plainLayer l source) = some v ↔ Library.standard.Sets l k v source := by
  cases source with
  | given => rw [plainLayer, get?_normalize, valueOf?_eq_some_iff, Library.Sets]
  | environment =>
    rw [plainLayer, get?_knownPart, environmentValue?_eq_some_iff, Library.Sets]
  | file fields => rw [plainLayer, get?_normalize, valueOf?_eq_some_iff, Library.Sets]

theorem once_plainLayer (l : Layers) (k : Key) (source : Source) :
    Once k.text (plainLayer l source) := by
  cases source with
  | given => exact once_normalize l.given k
  | environment => exact once_knownPart _ _
  | file fields => exact once_normalize fields k

theorem mem_keys_plainLayer (h : ∀ k : Key, name ≠ k.text) {source : Source} :
    name ∈ (plainLayer l source).map Prod.fst ↔
      Library.standard.IsUnknown name ∧ name ∈ l.names source := by
  cases source with
  | given => exact mem_keys_normalize h
  | environment =>
    exact iff_of_false (not_mem_knownPart _ h) fun hmem => absurd hmem.2 List.not_mem_nil
  | file fields => exact mem_keys_normalize h

/-- The first layer that has a key is that of the first source which sets it. -/
theorem findSome?_plainLayer {v : Value} :
    (l.sources.map (plainLayer l)).findSome? (Assoc.get? k.text) = some v ↔
      Library.standard.Counts l k v := by
  rw [List.findSome?_map, List.findSome?_eq_some_iff]
  constructor
  · rintro ⟨above, source, below, hsources, hsets, habove⟩
    refine ⟨above, source, below, hsources, get?_plainLayer.mp hsets, fun x hx u hu => ?_⟩
    have hnone : Assoc.get? k.text (plainLayer l x) = none := habove x hx
    rw [get?_plainLayer.mpr hu] at hnone
    cases hnone
  · rintro ⟨above, source, below, hsources, hsets, habove⟩
    refine ⟨above, source, below, hsources, get?_plainLayer.mpr hsets, fun x hx => ?_⟩
    exact Option.eq_none_iff_forall_ne_some.mpr fun u hu => habove x hx u (get?_plainLayer.mp hu)

theorem merges_mergeAll (l : Layers) :
    Library.standard.Merges l (mergeAll (l.sources.map (plainLayer l))) := by
  have hfound : ∀ k : Key, Option.Rel Alike
      (Assoc.get? k.text (mergeAll (l.sources.map (plainLayer l))))
      ((l.sources.map (plainLayer l)).findSome? (Assoc.get? k.text)) := by
    intro k
    have hempty : Once k.text [] := Nat.zero_le 1
    refine get?_foldl (fun layer hlayer => ?_) hempty .none
    obtain ⟨source, -, rfl⟩ := List.mem_map.mp hlayer
    exact once_plainLayer l k source
  refine ⟨fun k v hv => ?_, fun k hnone => ?_, fun name hname => ?_⟩
  · have hk := hfound k
    rw [findSome?_plainLayer.mpr hv] at hk
    generalize Assoc.get? k.text _ = found at hk ⊢
    cases hk with
    | some halike => exact ⟨_, rfl, halike⟩
  · have hk := hfound k
    rw [Option.eq_none_iff_forall_ne_some.mpr fun v hv =>
      hnone v (findSome?_plainLayer.mp hv)] at hk
    generalize Assoc.get? k.text _ = found at hk ⊢
    cases hk with
    | none => rfl
  · have hempty : name ∉ ([] : Layer).map Prod.fst := List.not_mem_nil
    rw [mergeAll, mem_keys_foldl, or_iff_right hempty]
    constructor
    · rintro ⟨layer, hlayer, hmem⟩
      obtain ⟨source, hsource, rfl⟩ := List.mem_map.mp hlayer
      obtain ⟨hunknown, hmem⟩ := (mem_keys_plainLayer hname).mp hmem
      exact ⟨hunknown, source, hsource, hmem⟩
    · rintro ⟨hunknown, source, hsource, hmem⟩
      exact ⟨_, List.mem_map_of_mem hsource, (mem_keys_plainLayer hname).mpr ⟨hunknown, hmem⟩⟩

end Sources

/-! ### Values without reserved keys -/

theorem head?_name (d : Directive) : d.name.toList.head? = some '_' := by
  cases d <;> simp [Directive.name]

theorem head?_of_isReserved {name : String} (h : isReserved name = true) :
    name.toList.head? = some '_' := by
  have hidle : ∀ name ∈ Directive.idleNames, name.toList.head? = some '_' := by
    simp [Directive.idleNames]
  rw [isReserved, Bool.or_eq_true, List.any_eq_true, decide_eq_true_iff] at h
  rcases h with ⟨d, -, hd⟩ | h
  · rw [← of_decide_eq_true hd]
    exact head?_name d
  · exact hidle name h

section Plain

variable {given : Layer} (h : IsPlain given)

include h

theorem get?_of_isPlain {name : String} (hname : name.toList.head? = some '_') :
    Assoc.get? name given = none := by
  refine get?_of_not_mem fun hmem => ?_
  obtain ⟨x, hx, rfl⟩ := List.mem_map.mp hmem
  exact h x hx hname

theorem value_of_isPlain (d : Directive) : d.value given = .null := by
  rw [Directive.value, get?_of_isPlain h (head?_name d)]
  rfl

theorem withoutDirectives_of_isPlain : withoutDirectives given = given := by
  refine List.filter_eq_self.mpr fun x hx => ?_
  rw [Bool.not_eq_true']
  exact Bool.eq_false_iff.mpr fun hreserved => h x hx (head?_of_isReserved hreserved)

theorem ofGiven_of_isPlain : Reading.ofGiven given = .ok {} := by
  simp only [Reading.ofGiven, value_of_isPlain h]
  rfl

theorem start_of_isPlain (w : Surroundings) : start w given = .ok none := by
  have hcompanions : readCompanions w given = .ok () := by
    simp only [readCompanions, value_of_isPlain h]
    rfl
  rw [start, get?_of_isPlain h (by decide), value_of_isPlain h, ofGiven_of_isPlain h, hcompanions]
  rfl

theorem layerOf_of_isPlain (w : Surroundings) (sources : List Source) (source : Source) :
    layerOf w given source = .ok (plainLayer ⟨given, w.environment, sources⟩ source) := by
  cases source with
  | given => rw [layerOf, withoutDirectives_of_isPlain h, plainLayer]
  | environment =>
    rw [layerOf, ofGiven_of_isPlain h]
    rfl
  | file fields => rfl

theorem mapM_layerOf_of_isPlain (w : Surroundings) (sources some : List Source) :
    some.mapM (layerOf w given) =
      .ok (some.map (plainLayer ⟨given, w.environment, sources⟩)) := by
  induction some with
  | nil => rfl
  | cons source some ih =>
    rw [List.mapM_cons, layerOf_of_isPlain h w sources, ih]
    rfl

theorem combine_of_isPlain (w : Surroundings) (sources : List Source) :
    combine w given sources =
      .ok (mergeAll (sources.map (plainLayer ⟨given, w.environment, sources⟩))) := by
  have harguments : Flags.layerOfGiven given = .ok [] := by
    simp only [Flags.layerOfGiven, value_of_isPlain h]
    rfl
  rw [combine, harguments, mapM_layerOf_of_isPlain h w sources]
  show Except.ok (mergeAll ([] :: _)) = _
  rw [mergeAll, List.foldl_cons, mergeFields]
  rfl

end Plain

end BorrowGraph.Settings.Standard
