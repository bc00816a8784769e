/-
Where reports are written, and what that changes.

A report goes into the directory of its facts, under one name, by way of a temporary file
beside it.  When that directory is there, writing either puts the whole text in its place
(`place_of_canWrite`) or is refused with a diagnostic (`place_of_not_canWrite`); which of the
two depends only on the directories and on the lengths of the paths.  In both cases no other
file is touched and no directory is made or removed (`DiffersAt`).

The paths are those that the settings give to a file name, which is one component
(`noSlash_fileName`).
-/
import BorrowGraph.Pipeline
import BorrowGraph.Proofs.FileTrees
import Mathlib.Data.List.Basic

namespace BorrowGraph

/-! ### Components of paths -/

theorem Text.splitAtChar_of_not_mem {sep : Char} {cs : List Char} (h : sep ∉ cs) :
    splitAtChar sep cs = [cs] := by
  induction cs with
  | nil => rfl
  | cons c cs ih =>
    rw [List.mem_cons, not_or] at h
    rw [splitAtChar, if_neg (Ne.symm h.1), ih h.2]
    rfl

namespace Path

/-- The path to an entry below a path. -/
def below (p : Path) (component : String) : Path :=
  ⟨p.root, p.parts ++ [component]⟩

theorem rootOf_of_not_mem {cs : List Char} (h : '/' ∉ cs) : rootOf cs = "" := by
  unfold rootOf
  split
  · simp at h
  · simp at h
  · simp at h
  · rfl

theorem ofText_of_noSlash {s : String} (h : '/' ∉ s.toList) :
    ofText s = ⟨"", [s].filter fun c => c ≠ "" && c ≠ "."⟩ := by
  rw [ofText, rootOf_of_not_mem h, Text.splitAtChar_of_not_mem h, List.map_singleton,
    String.ofList_toList]

/-- A text without slashes that is not empty and not a dot is one component. -/
theorem child_eq_below (p : Path) {s : String} (h : '/' ∉ s.toList) (hempty : s ≠ "")
    (hdot : s ≠ ".") : p.child s = p.below s := by
  rw [child, ofText_of_noSlash h, List.filter_cons_of_pos (by simp [hempty, hdot])]
  rfl

theorem parent_below (p : Path) (c : String) : (p.below c).parent = p := by
  simp [below, parent]

theorem name?_below (p : Path) (c : String) : (p.below c).name? = some c := by
  simp [below, name?]

theorem addSuffix_below (p : Path) (c suffix : String) :
    (p.below c).addSuffix c suffix = p.below (c ++ suffix) := by
  simp [below, addSuffix]

theorem hasNull_below (p : Path) (c : String) :
    (p.below c).hasNull = (p.hasNull || c.toList.contains (Char.ofNat 0)) := by
  simp [below, hasNull]

end Path

/-! ### File names -/

theorem noSlash_fileName (path : String) : '/' ∉ (fileName path).toList := by
  simp only [fileName, String.toList_ofList, List.mem_map, not_exists, not_and]
  intro c _ hc
  split at hc
  · rename_i hchar
    subst hc
    exact absurd hchar (by decide)
  · exact absurd hc (by decide)

theorem fileName_ne_empty (path : String) : fileName path ≠ "" := by
  have hnamed : ∀ joined : List Char,
      (if joined.isEmpty then "unnamed".toList else joined) ≠ [] := by
    intro joined
    split
    · decide
    · rename_i h
      simpa using h
  intro h
  have hlist : (fileName path).toList = [] := by rw [h]; rfl
  rw [fileName, String.toList_ofList, List.map_eq_nil_iff] at hlist
  exact hnamed _ hlist

namespace Settings

theorem reportPath_eq (s : Settings) (name : String) :
    s.reportPath name = (s.factsPath name).below "graph.dot" :=
  Path.child_eq_below _ (by decide) (by decide) (by decide)

/-- The facts of a function with a proper file name have a directory of their own. -/
theorem factsPath_eq (s : Settings) {name : String} (h : '/' ∉ name.toList) (hempty : name ≠ "")
    (hdot : name ≠ ".") : s.factsPath name = (Path.ofText s.factsDir).below name :=
  Path.child_eq_below _ h hempty hdot

/-- The listing of a file name. -/
def listingFile (name : String) : String :=
  "rustc." ++ name ++ ".-------.renumber.0.mir"

theorem listingFile_ne (name : String) {s : String} (h : s.toList.head? ≠ some 'r') :
    listingFile name ≠ s := by
  rintro rfl
  refine h ?_
  rw [listingFile, String.toList_append, String.toList_append]
  rfl

theorem listingPath_eq (s : Settings) {name : String} (h : '/' ∉ name.toList) :
    s.listingPath name = ((Path.ofText s.logDir).child "mir").below (listingFile name) := by
  refine Path.child_eq_below _ ?_ (listingFile_ne name (by decide))
    (listingFile_ne name (by decide))
  simp only [String.toList_append, List.mem_append, not_or]
  exact ⟨⟨by decide, h⟩, by decide⟩

end Settings

/-! ### Entries below a directory -/

namespace FileTree

variable {t t' : FileTree}

/-- A path leads to a directory. -/
structure IsDirectoryAt (t : FileTree) (p : Path) (k : Key) : Prop where
  hasNull : p.hasNull = false
  located : t.locate p = .ok k
  directory : t.node? k = some .directory

theorem exists_isDirectoryAt {p : Path} (h : t.isDirectory p = .ok true) :
    ∃ k, t.IsDirectoryAt p k := by
  obtain ⟨hnull, k, hk, hdir⟩ := isDirectory_eq_ok_true.mp h
  exact ⟨k, hnull, hk, hdir⟩

/-- The keys that paths lead to. -/
def locatedKeys (t : FileTree) (paths : List Path) : List Key :=
  paths.filterMap fun p => (t.locate p).toOption

theorem mem_locatedKeys {paths : List Path} {k : Key} :
    k ∈ t.locatedKeys paths ↔ ∃ p ∈ paths, t.locate p = .ok k := by
  rw [locatedKeys, List.mem_filterMap]
  refine exists_congr fun p => and_congr_right fun _ => ?_
  cases t.locate p with
  | error c => simp [Except.toOption]
  | ok k' => simp [Except.toOption]

/-- Trees with the same directories lead paths to the same keys. -/
theorem locatedKeys_eq (h : SameDirectories t t') (paths : List Path) :
    t'.locatedKeys paths = t.locatedKeys paths := by
  refine List.filterMap_congr fun p _ => ?_
  rcases hk : t.locate p with c | k
  · rcases hk' : t'.locate p with c' | k'
    · rfl
    · rw [(locate_sameFound h.symm p).ok hk'] at hk
      cases hk
  · rw [(locate_sameFound h p).ok hk]

/-- Trees that may differ in the entries at some keys; the directories are the same. -/
structure DiffersAt (t t' : FileTree) (keys : List Key) : Prop where
  same : ∀ k, k ∉ keys → t'.node? k = t.node? k
  directories : SameDirectories t t'

theorem DiffersAt.refl (t : FileTree) (keys : List Key) : t.DiffersAt t keys :=
  ⟨fun _ _ => rfl, fun _ => Iff.rfl⟩

theorem DiffersAt.trans {t'' : FileTree} {keys keys' : List Key} (h : t.DiffersAt t' keys)
    (h' : t'.DiffersAt t'' keys') : t.DiffersAt t'' (keys ++ keys') where
  same := by
    intro k hk
    rw [List.mem_append, not_or] at hk
    rw [h'.same k hk.2, h.same k hk.1]
  directories := fun k => (h.directories k).trans (h'.directories k)

theorem DiffersAt.mono {keys keys' : List Key} (h : t.DiffersAt t' keys) (hk : keys ⊆ keys') :
    t.DiffersAt t' keys' :=
  ⟨fun k hk' => h.same k fun hmem => hk' (hk hmem), h.directories⟩

/-- Setting a file where there is no directory. -/
theorem differsAt_set {k : Key} (hk : k.parts ≠ []) (hdir : t.node? k ≠ some .directory)
    (content : List UInt8) : t.DiffersAt (t.set k (.file content)) [k] where
  same := fun k' hk' => node?_set_of_ne (by simpa using hk') _
  directories := by
    intro k'
    by_cases h : k' = k
    · subst h
      rw [node?_set_self hk]
      simp [hdir]
    · rw [node?_set_of_ne h]

/-- Removing what is not a directory. -/
theorem differsAt_erase {k : Key} (hk : k.parts ≠ []) (hdir : t.node? k ≠ some .directory) :
    t.DiffersAt (t.erase k) [k] where
  same := fun k' hk' => node?_erase_of_ne (by simpa using hk')
  directories := by
    intro k'
    by_cases h : k' = k
    · subst h
      rw [node?_erase_self hk]
      simp [hdir]
    · rw [node?_erase_of_ne h]

section Below

variable {p : Path} {k : Key}

theorem IsDirectoryAt.of_sameDirectories (h : t.IsDirectoryAt p k) (hd : SameDirectories t t') :
    t'.IsDirectoryAt p k :=
  ⟨h.hasNull, (locate_sameFound hd p).ok h.located, (hd k).mp h.directory⟩

/-- A directory that is there need not be made. -/
theorem makeDirectories_of_isDirectoryAt (h : t.IsDirectoryAt p k) :
    t.makeDirectories p = (t, .ok ()) := by
  have hmake : t.makeDirectory p = .error .alreadyExists := by
    rw [makeDirectory, h.located]
    simp only [bind, Except.bind, h.directory]
    rfl
  have hhas : t.hasDirectory p = true := by
    rw [hasDirectory, stat_eq_ok.mpr ⟨k, h.located, h.directory⟩]
  obtain ⟨root, parts⟩ := p
  rw [makeDirectories]
  simp only
  rcases hrev : parts.reverse with _ | ⟨c, rev⟩
  · obtain rfl : parts = [] := by simpa using hrev
    rw [ensureDirectories, ensureDirectory, hmake]
    simp only [hhas, if_true]
  · have hparts : (c :: rev).reverse = parts := by rw [← hrev, List.reverse_reverse]
    rw [ensureDirectories]
    simp only [hparts, hmake, hhas, if_true]

/-- The key of an entry below a directory, unless its path is too long. -/
theorem locate_below (h : t.IsDirectoryAt p k) {c : String} (hc : c ≠ "..")
    (hlength : c.utf8ByteSize ≤ nameLimit) :
    t.locate (p.below c) =
      if pathLimit ≤ (p.below c).text.utf8ByteSize then .error .nameTooLong
      else .ok (k.down c) := by
  have hwalk : t.walk (startOf p) p.parts = .ok k := by
    have hlocated := h.located
    rw [locate] at hlocated
    split at hlocated
    · cases hlocated
    · exact hlocated
  rw [locate]
  split
  · rfl
  · show t.walk (startOf p) (p.parts ++ [c]) = _
    rw [walk_append, hwalk]
    show t.walk k [c] = _
    rw [walk, h.directory]
    simp only [if_neg hc, if_neg (Nat.not_lt.mpr hlength), walk]

end Below

end FileTree

/-! ### Writing a report -/

namespace Report

open FileTree

/-- A report can be put into a directory. -/
structure CanWrite (t : FileTree) (p : Path) (k : Key) : Prop where
  short : (p.below "graph.dot").text.utf8ByteSize < pathLimit
  temporaryShort : (p.below "graph.dot.tmp").text.utf8ByteSize < pathLimit
  target : t.node? (k.down "graph.dot") ≠ some .directory
  temporary : t.node? (k.down "graph.dot.tmp") ≠ some .directory

variable {t t' : FileTree} {p : Path} {k : Key}

/-- Whether a report can be written depends on the directories only. -/
theorem CanWrite.of_sameDirectories (h : CanWrite t p k) (hd : SameDirectories t t') :
    CanWrite t' p k :=
  ⟨h.short, h.temporaryShort, fun h' => h.target ((hd _).mpr h'),
    fun h' => h.temporary ((hd _).mpr h')⟩

theorem down_target_ne (k : Key) : k.down "graph.dot" ≠ k.down "graph.dot.tmp" :=
  fun h => absurd (Key.down_inj h).2 (by decide)

/-- The temporary file can be opened, or nothing is changed. -/
theorem openForWriting_cases (h : t.IsDirectoryAt p k) :
    (t.openForWriting (p.below "graph.dot.tmp") =
        .ok (k.down "graph.dot.tmp", t.set (k.down "graph.dot.tmp") (.file [])) ∧
      (p.below "graph.dot.tmp").text.utf8ByteSize < pathLimit ∧
      t.node? (k.down "graph.dot.tmp") ≠ some .directory) ∨
    ((∃ e, t.openForWriting (p.below "graph.dot.tmp") = .error e) ∧ ¬ CanWrite t p k) := by
  rw [openForWriting, locate_below h (by decide) (by decide)]
  by_cases hlong : pathLimit ≤ (p.below "graph.dot.tmp").text.utf8ByteSize
  · rw [if_pos hlong]
    exact .inr ⟨⟨_, rfl⟩, fun hw => absurd hw.temporaryShort (Nat.not_lt.mpr hlong)⟩
  · rw [if_neg hlong]
    simp only [Key.up_down, h.directory]
    rcases hn : t.node? (k.down "graph.dot.tmp") with _ | ⟨_ | _⟩
    · exact .inl ⟨rfl, Nat.not_le.mp hlong, by simp⟩
    · exact .inl ⟨rfl, Nat.not_le.mp hlong, by simp⟩
    · exact .inr ⟨⟨_, rfl⟩, fun hw => hw.temporary hn⟩

/-- The temporary file takes the place of the target, or nothing is changed. -/
theorem replace_cases (h : t.IsDirectoryAt p k) {content : List UInt8}
    (hfile : t.node? (k.down "graph.dot.tmp") = some (.file content))
    (hshort : (p.below "graph.dot.tmp").text.utf8ByteSize < pathLimit) :
    (t.replace (p.below "graph.dot.tmp") (p.below "graph.dot") =
        .ok ((t.set (k.down "graph.dot") (.file content)).erase (k.down "graph.dot.tmp")) ∧
      (p.below "graph.dot").text.utf8ByteSize < pathLimit ∧
      t.node? (k.down "graph.dot") ≠ some .directory) ∨
    ((∃ e, t.replace (p.below "graph.dot.tmp") (p.below "graph.dot") = .error e) ∧
      ¬ CanWrite t p k) := by
  have hnot : ((p.below "graph.dot").parts.isEmpty || (p.below "graph.dot").name? = some "..") =
      false := by
    rw [Path.name?_below]
    simp [Path.below]
  rw [replace, locate_below h (by decide) (by decide), if_neg (Nat.not_le.mpr hshort),
    locate_below h (by decide) (by decide)]
  by_cases hlong : pathLimit ≤ (p.below "graph.dot").text.utf8ByteSize
  · rw [if_pos hlong]
    exact .inr ⟨⟨_, rfl⟩, fun hw => absurd hw.short (Nat.not_lt.mpr hlong)⟩
  · rw [if_neg hlong]
    simp only [hnot, hfile, Bool.false_eq_true, if_false]
    rcases hn : t.node? (k.down "graph.dot") with _ | ⟨_ | _⟩
    · exact .inl ⟨rfl, Nat.not_le.mp hlong, by simp⟩
    · exact .inl ⟨rfl, Nat.not_le.mp hlong, by simp⟩
    · exact .inr ⟨⟨_, rfl⟩, fun hw => hw.target hn⟩

/-- Cleaning up removes at most the temporary file. -/
theorem cleanUp_differsAt (h : t.IsDirectoryAt p k) :
    t.DiffersAt (cleanUp t (p.below "graph.dot.tmp") {})
      (t.locatedKeys [p.below "graph.dot.tmp"]) := by
  rw [cleanUp, refusable, unlink]
  rcases hstat : t.stat (p.below "graph.dot.tmp") with c | ⟨_ | _⟩
  · cases c <;> exact DiffersAt.refl _ _
  · obtain ⟨k', hk', hn⟩ := stat_eq_ok.mp hstat
    have hmem : k' ∈ t.locatedKeys [p.below "graph.dot.tmp"] :=
      mem_locatedKeys.mpr ⟨_, List.mem_singleton_self _, hk'⟩
    obtain rfl : k' = k.down "graph.dot.tmp" := by
      have hlocate := locate_below h (c := "graph.dot.tmp") (by decide) (by decide)
      rw [hk'] at hlocate
      split at hlocate
      · cases hlocate
      · exact Except.ok.inj hlocate
    simp only [hk']
    exact (differsAt_erase (Key.parts_down_ne_nil _ _) (by simp [hn])).mono (by simpa using hmem)
  · exact DiffersAt.refl _ _

/-- Putting a report into its place: the target holds the whole content, or the step is refused. -/
theorem install_cases (h : t.IsDirectoryAt p k) (content : List UInt8) :
    (∃ t', install t (p.below "graph.dot.tmp") (p.below "graph.dot") content {} = (t', .ok ()) ∧
      CanWrite t p k ∧ t'.node? (k.down "graph.dot") = some (.file content) ∧
      t.DiffersAt t' (t.locatedKeys [p.below "graph.dot", p.below "graph.dot.tmp"])) ∨
    (∃ t' e, install t (p.below "graph.dot.tmp") (p.below "graph.dot") content {} =
        (t', .error e) ∧
      ¬ CanWrite t p k ∧ t.DiffersAt t' (t.locatedKeys [p.below "graph.dot.tmp"])) := by
  have htmp := Key.parts_down_ne_nil k "graph.dot.tmp"
  have htarget := Key.parts_down_ne_nil k "graph.dot"
  rw [install, refusable]
  rcases openForWriting_cases h with ⟨hopen, hshort, hdir⟩ | ⟨⟨e, hopen⟩, hnot⟩
  · rw [hopen]
    simp only
    -- The temporary file with its content, before it takes the place of the target.
    obtain ⟨t₁, ht₁⟩ : ∃ t₁, (t.set (k.down "graph.dot.tmp") (.file [])).set
        (k.down "graph.dot.tmp") (.file content) = t₁ := ⟨_, rfl⟩
    have hdiffers : t.DiffersAt t₁ [k.down "graph.dot.tmp"] := by
      have hempty := differsAt_set htmp hdir []
      have hfull := differsAt_set (t := t.set (k.down "graph.dot.tmp") (.file [])) htmp
        (by rw [node?_set_self htmp]; simp) content
      rw [ht₁] at hfull
      exact (hempty.trans hfull).mono (by simp)
    have hlocated : k.down "graph.dot.tmp" ∈ t.locatedKeys [p.below "graph.dot.tmp"] := by
      refine mem_locatedKeys.mpr ⟨_, List.mem_singleton_self _, ?_⟩
      rw [locate_below h (by decide) (by decide), if_neg (Nat.not_le.mpr hshort)]
    have hfile : t₁.node? (k.down "graph.dot.tmp") = some (.file content) := by
      rw [← ht₁, node?_set_self htmp]
    have hwrite : CanWrite t p k ↔ CanWrite t₁ p k :=
      ⟨fun hw => hw.of_sameDirectories hdiffers.directories,
        fun hw => hw.of_sameDirectories hdiffers.directories.symm⟩
    rw [ht₁]
    rcases replace_cases (h.of_sameDirectories hdiffers.directories) hfile hshort with
      ⟨hreplace, hshort', hdir'⟩ | ⟨⟨e, hreplace⟩, hnot⟩
    · rw [hreplace]
      refine .inl ⟨_, rfl, hwrite.mpr ⟨hshort', hshort, hdir', by simp [hfile]⟩, ?_, ?_⟩
      · rw [node?_erase_of_ne (down_target_ne k), node?_set_self htarget]
      · have hset := differsAt_set htarget hdir' content
        have herase := differsAt_erase (t := t₁.set (k.down "graph.dot") (.file content)) htmp
          (by rw [node?_set_of_ne (down_target_ne k).symm, hfile]; simp)
        have hlocated' : k.down "graph.dot" ∈ t.locatedKeys [p.below "graph.dot"] := by
          refine mem_locatedKeys.mpr ⟨_, List.mem_singleton_self _, ?_⟩
          rw [locate_below h (by decide) (by decide), if_neg (Nat.not_le.mpr hshort')]
        refine (hdiffers.trans (hset.trans herase)).mono ?_
        have hboth : t.locatedKeys [p.below "graph.dot", p.below "graph.dot.tmp"] =
            t.locatedKeys [p.below "graph.dot"] ++ t.locatedKeys [p.below "graph.dot.tmp"] :=
          List.filterMap_append (l := [p.below "graph.dot"])
        rw [hboth]
        intro k' hk'
        simp only [List.cons_append, List.nil_append, List.mem_cons, List.not_mem_nil,
          or_false] at hk'
        rcases hk' with rfl | rfl | rfl
        · exact List.mem_append_right _ hlocated
        · exact List.mem_append_left _ hlocated'
        · exact List.mem_append_right _ hlocated
    · rw [hreplace]
      exact .inr ⟨t₁, e, rfl, fun hw => hnot (hwrite.mp hw),
        hdiffers.mono (by simpa using hlocated)⟩
  · rw [hopen]
    exact .inr ⟨t, e, rfl, hnot, DiffersAt.refl _ _⟩

/-- The bytes of a report that is in its place. -/
theorem readBytes_of_node (h : t.IsDirectoryAt p k)
    (hshort : (p.below "graph.dot").text.utf8ByteSize < pathLimit) {content : List UInt8}
    (hfile : t.node? (k.down "graph.dot") = some (.file content)) :
    t.readBytes (p.below "graph.dot") = .ok content := by
  have hnull : (p.below "graph.dot").hasNull = false := by
    rw [Path.hasNull_below, h.hasNull]
    decide
  have hlocated : t.locate (p.below "graph.dot") = .ok (k.down "graph.dot") := by
    rw [locate_below h (by decide) (by decide), if_neg (Nat.not_le.mpr hshort)]
  exact readBytes_eq_ok.mpr ⟨hnull, _, hlocated, hfile⟩

section Place

variable (h : t.IsDirectoryAt p k) (r : Report) (text : String)
include h

/-- With the directory there, writing comes down to putting the text into its place. -/
theorem place_eq :
    place t r text (p.below "graph.dot") {} =
      match install t (p.below "graph.dot.tmp") (p.below "graph.dot") (Utf8.encode text) {} with
      | (t', .error e) => (cleanUp t' (p.below "graph.dot.tmp") {},
          .error (.diagnostic (writeDiagnostic r (p.below "graph.dot") e)))
      | (t', .ok ()) => (t', .ok (p.below "graph.dot")) := by
  have hnull : (p.below "graph.dot.tmp").hasNull = false := by
    rw [Path.hasNull_below, h.hasNull]
    decide
  have hname : "graph.dot" ++ ".tmp" = "graph.dot.tmp" := by decide
  rcases hinstall : install t (p.below "graph.dot.tmp") (p.below "graph.dot") (Utf8.encode text) {}
    with ⟨t', e | _⟩
  · simp only [place, Path.name?_below, Path.parent_below, Path.addSuffix_below, hname, h.hasNull,
      Bool.false_eq_true, if_false, prepare, makeDirectories_of_isDirectoryAt h, hnull, hinstall]
  · simp only [place, Path.name?_below, Path.parent_below, Path.addSuffix_below, hname, h.hasNull,
      Bool.false_eq_true, if_false, prepare, makeDirectories_of_isDirectoryAt h, hnull, hinstall]

/-- A text that can be written is put into its place as a whole. -/
theorem place_of_canWrite (hw : CanWrite t p k) :
    ∃ t', place t r text (p.below "graph.dot") {} = (t', .ok (p.below "graph.dot")) ∧
      t'.node? (k.down "graph.dot") = some (.file (Utf8.encode text)) ∧
      t.DiffersAt t' (t.locatedKeys [p.below "graph.dot", p.below "graph.dot.tmp"]) := by
  rw [place_eq h]
  rcases install_cases h (Utf8.encode text) with
    ⟨t', hinstall, -, hfile, hdiffers⟩ | ⟨t', e, -, hnot, -⟩
  · rw [hinstall]
    exact ⟨t', rfl, hfile, hdiffers⟩
  · exact absurd hw hnot

/-- A text that cannot be written is refused with a diagnostic, and at most its temporary file
is gone. -/
theorem place_of_not_canWrite (hw : ¬ CanWrite t p k) :
    ∃ t' d, place t r text (p.below "graph.dot") {} = (t', .error (.diagnostic d)) ∧
      d.kind = .reportWrite ∧ t.DiffersAt t' (t.locatedKeys [p.below "graph.dot.tmp"]) := by
  rw [place_eq h]
  rcases install_cases h (Utf8.encode text) with
    ⟨t', -, hcan, -⟩ | ⟨t', e, hinstall, -, hdiffers⟩
  · exact absurd hcan hw
  · rw [hinstall]
    have hclean := cleanUp_differsAt (h.of_sameDirectories hdiffers.directories)
    rw [locatedKeys_eq hdiffers.directories] at hclean
    exact ⟨_, _, rfl, rfl, (hdiffers.trans hclean).mono (by simp)⟩

end Place

end Report
end BorrowGraph
