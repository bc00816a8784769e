/-
Lookups in file trees.

What is written to one key is not seen at any other (`node?_set_of_ne`, `node?_erase_of_ne`).
A walk only asks which keys are directories, so it leads to the same key in all trees with the
same directories (`walk_sameFound`); trees that differ in their files can only differ in how
they say that there is nothing.  What is asked about a path is then answered alike
(`isDirectory_eq`, `ask_eq`), and its bytes are the same or refused (`readBytes_same`).
-/
import BorrowGraph.FileTree
import Mathlib.Tactic.Common

namespace BorrowGraph

/-! ### Association lists -/

namespace Assoc

variable {κ α : Type} [DecidableEq κ]

theorem get?_filter_ne (key key' : κ) (entries : List (κ × α)) :
    get? key' (entries.filter fun x => x.1 ≠ key) =
      if key' = key then none else get? key' entries := by
  induction entries with
  | nil => simp [get?]
  | cons x entries ih =>
    obtain ⟨k, v⟩ := x
    by_cases hk : k = key
    · subst hk
      rw [List.filter_cons_of_neg (by simp), ih]
      by_cases h : key' = k
      · simp [h]
      · simp [h, get?, Ne.symm h]
    · rw [List.filter_cons_of_pos (by simpa using hk), get?, get?]
      by_cases h : k = key'
      · subst h
        rw [if_pos rfl, if_pos rfl, if_neg hk]
      · rw [if_neg h, if_neg h, ih]

end Assoc

namespace FileTree

/-! ### Keys and entries -/

theorem Key.down_inj {k k' : Key} {c c' : String} (h : k.down c = k'.down c') :
    k = k' ∧ c = c' := by
  obtain ⟨a, parts⟩ := k
  obtain ⟨a', parts'⟩ := k'
  simp only [down, mk.injEq] at h
  obtain ⟨hparts, hc⟩ := List.append_inj' h.2 rfl
  exact ⟨by rw [h.1, hparts], List.singleton_inj.mp hc⟩

theorem Key.parts_down_ne_nil (k : Key) (c : String) : (k.down c).parts ≠ [] := by
  simp [down]

theorem Key.up_down (k : Key) (c : String) : (k.down c).up = k := by
  obtain ⟨a, parts⟩ := k
  rcases parts with _ | ⟨d, parts⟩
  · cases a <;> rfl
  · simp only [down, List.cons_append, up, Key.mk.injEq, true_and]
    rw [← List.cons_append, List.dropLast_concat]

variable {t t' : FileTree}

theorem node?_of_parts_ne_nil {k : Key} (hk : k.parts ≠ []) :
    t.node? k = Assoc.get? k t.entries := by
  rw [node?, if_neg (by simpa using hk)]

theorem node?_set_self {k : Key} (hk : k.parts ≠ []) (n : Node) :
    (t.set k n).node? k = some n := by
  rw [node?_of_parts_ne_nil hk, set, Assoc.get?_put, if_pos rfl]

theorem node?_set_of_ne {k k' : Key} (h : k' ≠ k) (n : Node) :
    (t.set k n).node? k' = t.node? k' := by
  rw [node?, node?, set, Assoc.get?_put, if_neg h]

theorem node?_erase_self {k : Key} (hk : k.parts ≠ []) : (t.erase k).node? k = none := by
  rw [node?_of_parts_ne_nil hk, erase]
  exact (Assoc.get?_filter_ne k k t.entries).trans (if_pos rfl)

theorem node?_erase_of_ne {k k' : Key} (h : k' ≠ k) : (t.erase k).node? k' = t.node? k' := by
  have hget := Assoc.get?_filter_ne k k' t.entries
  rw [if_neg h] at hget
  rw [node?, node?, erase, ← hget]

/-! ### Walks -/

theorem walk_append (t : FileTree) (k : Key) (cs ds : List String) :
    t.walk k (cs ++ ds) = t.walk k cs >>= fun k' => t.walk k' ds := by
  induction cs generalizing k with
  | nil => rfl
  | cons c cs ih =>
    rw [List.cons_append, walk, walk]
    split
    · rfl
    · rfl
    · split
      · exact ih _
      · split
        · rfl
        · exact ih _

/-- The causes that say that there is nothing. -/
def isAbsent : FileError.Cause → Bool
  | .notFound | .notDirectory => true
  | _ => false

/-- Two lookups find the same, or both that there is nothing. -/
inductive SameFound {α : Type} : Except FileError.Cause α → Except FileError.Cause α → Prop where
  | refl (x : Except FileError.Cause α) : SameFound x x
  | absent {c c' : FileError.Cause} : isAbsent c = true → isAbsent c' = true →
      SameFound (.error c) (.error c')

theorem SameFound.bind {α β : Type} {x y : Except FileError.Cause α}
    {f g : α → Except FileError.Cause β} (h : SameFound x y)
    (hfg : ∀ a, x = .ok a → SameFound (f a) (g a)) : SameFound (x >>= f) (y >>= g) := by
  cases h with
  | absent hc hc' => exact .absent hc hc'
  | refl =>
    rcases x with c | a
    · exact .refl _
    · exact hfg a rfl

/-- Two lookups that find the same succeed together. -/
theorem SameFound.ok {α : Type} {x y : Except FileError.Cause α} (h : SameFound x y) {a : α}
    (hx : x = .ok a) : y = .ok a := by
  cases h with
  | refl => exact hx
  | absent => cases hx

/-- Trees with the same directories. -/
def SameDirectories (t t' : FileTree) : Prop :=
  ∀ k, t.node? k = some .directory ↔ t'.node? k = some .directory

theorem SameDirectories.symm (h : SameDirectories t t') : SameDirectories t' t :=
  fun k => (h k).symm

/-- A walk leads to the same key in trees with the same directories. -/
theorem walk_sameFound (h : SameDirectories t t') (k : Key) (cs : List String) :
    SameFound (t.walk k cs) (t'.walk k cs) := by
  induction cs generalizing k with
  | nil => exact .refl _
  | cons c cs ih =>
    rw [walk, walk]
    by_cases hk : t.node? k = some .directory
    · rw [hk, (h k).mp hk]
      simp only
      split
      · exact ih _
      · split
        · exact .refl _
        · exact ih _
    · -- Neither tree has a directory here, so both walks end, each in its own words.
      have hk' : t'.node? k ≠ some .directory := fun h' => hk ((h k).mpr h')
      rcases hn : t.node? k with _ | ⟨_ | _⟩
      · rcases hn' : t'.node? k with _ | ⟨_ | _⟩
        · exact .refl _
        · exact .absent rfl rfl
        · exact absurd hn' hk'
      · rcases hn' : t'.node? k with _ | ⟨_ | _⟩
        · exact .absent rfl rfl
        · exact .refl _
        · exact absurd hn' hk'
      · exact absurd hn hk

theorem locate_sameFound (h : SameDirectories t t') (p : Path) :
    SameFound (t.locate p) (t'.locate p) := by
  rw [locate, locate]
  split
  · exact .refl _
  · exact walk_sameFound h _ _

/-! ### Questions about paths -/

theorem stat_sameFound (h : SameDirectories t t') {p : Path}
    (hp : ∀ k, t.locate p = .ok k → t.node? k = t'.node? k) :
    SameFound (t.stat p) (t'.stat p) := by
  refine (locate_sameFound h p).bind fun k hk => ?_
  rw [hp k hk]
  exact .refl _

theorem ask_eq {p : Path} (h : SameFound (t.stat p) (t'.stat p)) (q : Node → Bool) :
    t.ask p q = t'.ask p q := by
  rw [ask, ask]
  split
  · rfl
  · rcases hx : t.stat p with c | n
    · rcases hy : t'.stat p with c' | n'
      · rw [hx, hy] at h
        cases h with
        | refl => rfl
        | absent hc hc' =>
          cases c with
          | notFound => cases c' with
            | notFound | notDirectory => rfl
            | _ => cases hc'
          | notDirectory => cases c' with
            | notFound | notDirectory => rfl
            | _ => cases hc'
          | _ => cases hc
      · rw [hx, hy] at h
        cases h
    · rw [h.ok hx]

theorem stat_eq_ok {p : Path} {n : Node} :
    t.stat p = .ok n ↔ ∃ k, t.locate p = .ok k ∧ t.node? k = some n := by
  rw [stat]
  rcases t.locate p with c | k
  · simp [bind, Except.bind]
  · rcases hn : t.node? k with _ | m
    · simp [bind, Except.bind, hn, throw, throwThe, MonadExceptOf.throw]
    · simp [bind, Except.bind, hn, pure, Except.pure]

/-- Whether a path leads to a directory depends on the entry at its key. -/
theorem isDirectory_of_locate {p : Path} (hp : p.hasNull = false) {k : Key}
    (hk : t.locate p = .ok k) :
    t.isDirectory p = .ok (decide (t.node? k = some .directory)) := by
  rw [isDirectory, ask, hp, stat, hk]
  rcases hn : t.node? k with _ | ⟨_ | _⟩
  · simp [bind, Except.bind, hn, throw, throwThe, MonadExceptOf.throw]
  · simp [bind, Except.bind, hn, pure, Except.pure, Node.isFile]
  · simp [bind, Except.bind, hn, pure, Except.pure, Node.isFile]

theorem isDirectory_eq_ok_true {p : Path} :
    t.isDirectory p = .ok true ↔
      p.hasNull = false ∧ ∃ k, t.locate p = .ok k ∧ t.node? k = some .directory := by
  constructor
  · intro h
    rcases hp : p.hasNull with _ | _
    · rcases hk : t.locate p with c | k
      · rw [isDirectory, ask, hp, stat, hk] at h
        cases c <;> simp [bind, Except.bind] at h
      · rw [isDirectory_of_locate hp hk, Except.ok.injEq, decide_eq_true_iff] at h
        exact ⟨rfl, k, rfl, h⟩
    · simp [isDirectory, ask, hp] at h
  · rintro ⟨hp, k, hk, hn⟩
    rw [isDirectory_of_locate hp hk, decide_eq_true hn]

/-- Trees with the same directories agree on which paths lead to one. -/
theorem isDirectory_eq (h : SameDirectories t t') (p : Path) :
    t.isDirectory p = t'.isDirectory p := by
  rcases hk : t.locate p with c | k
  · have hstat : SameFound (t.stat p) (t'.stat p) :=
      stat_sameFound h fun k hk' => by rw [hk] at hk'; cases hk'
    exact ask_eq hstat _
  · rcases hp : p.hasNull with _ | _
    · rw [isDirectory_of_locate hp hk, isDirectory_of_locate hp ((locate_sameFound h p).ok hk),
        decide_eq_decide.mpr (h k)]
    · simp [isDirectory, ask, hp]

/-- A path can be read if it leads to a file. -/
theorem readBytes_eq_ok {p : Path} {content : List UInt8} :
    t.readBytes p = .ok content ↔
      p.hasNull = false ∧ ∃ k, t.locate p = .ok k ∧ t.node? k = some (.file content) := by
  rw [← stat_eq_ok, readBytes]
  rcases p.hasNull with _ | _
  · rcases t.stat p with c | _ | _ <;> simp
  · simp

/-- Reading fails for a null character in the path, or because the file is refused. -/
theorem readBytes_eq_error {p : Path} {f : Fault} (h : t.readBytes p = .error f) :
    p.hasNull = true ∧ f = .nullInPath ∨ p.hasNull = false ∧ ∃ e, f = .refused e := by
  rw [readBytes] at h
  split at h
  · rename_i hnull
    exact .inl ⟨hnull, (Except.error.inj h).symm⟩
  · rename_i hnull
    refine .inr ⟨Bool.eq_false_iff.mpr hnull, ?_⟩
    rcases hstat : t.stat p with c | ⟨_ | _⟩
    · rw [hstat] at h
      exact ⟨_, (Except.error.inj h).symm⟩
    · rw [hstat] at h
      cases h
    · rw [hstat] at h
      exact ⟨_, (Except.error.inj h).symm⟩

/-- The bytes of a path are the same, or refused by both trees. -/
theorem readBytes_same {p : Path} (h : SameFound (t.stat p) (t'.stat p)) :
    t.readBytes p = t'.readBytes p ∨
      ∃ e e', t.readBytes p = .error (.refused e) ∧ t'.readBytes p = .error (.refused e') := by
  rcases hp : p.hasNull with _ | _
  · rcases hx : t.stat p with c | n
    · rcases hy : t'.stat p with c' | n'
      · exact .inr
          ⟨_, _, by simp only [readBytes, hp, hx]; rfl, by simp only [readBytes, hp, hy]; rfl⟩
      · rw [hx, hy] at h
        cases h
    · left
      simp only [readBytes, hx, h.ok hx]
  · left
    simp only [readBytes, hp, if_true]

/-- Where there is something, both trees have the same bytes. -/
theorem readBytes_eq_of_isThere {p : Path} (h : SameFound (t.stat p) (t'.stat p))
    (hthere : t.isThere p = .ok true) : t.readBytes p = t'.readBytes p := by
  rcases hp : p.hasNull with _ | _
  · rcases hx : t.stat p with c | n
    · rw [isThere, ask, hp, hx] at hthere
      cases c <;> simp at hthere
    · simp only [readBytes, hx, h.ok hx]
  · simp [isThere, ask, hp] at hthere

end FileTree
end BorrowGraph
