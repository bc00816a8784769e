/-
Where the facts and the report of a function lie.

The file name of a definition path is made of few characters, is never empty and is its own
file name (`isNameChar_of_mem_fileName`, `fileName_of_isNameChar`).  It is a directory right
below the one of all the facts, and everything that is written for the function lies in there,
unless the only component that the path has beside its crate is one dot or two: these
characters are kept, and such a file name leads to the directory of all the facts or out of it
(`fileName_eq_dots`, `encloses_iff`).

Two definitions of a crate never share a file name, as long as their components are made of the
characters that are kept and have no dash, which stands between them
(`toList_fileName_definitionPath`, `fileName_separates`).
-/
import BorrowGraph.Proofs.AtomicWriting
import BorrowGraph.Proofs.SourceIndependence
import BorrowGraph.Proofs.TextShape

namespace BorrowGraph

open FileTree (keyOf)

/-! ### The characters of a file name -/

/-- Letters, digits and a few marks. -/
def IsNameChar (c : Char) : Prop :=
  c.isAlphanum = true ∨ c ∈ ['_', '\x7b', '\x7d', '#', '.', '-']

theorem isFileNameChar_iff (c : Char) : isFileNameChar c = true ↔ IsNameChar c := by
  delta isFileNameChar IsNameChar Char.isAlphanum Char.isAlpha Char.isUpper Char.isLower
    Char.isDigit
  simp only [Char.le_def, Bool.or_eq_true, Bool.and_eq_true, decide_eq_true_eq, List.mem_cons,
    List.not_mem_nil, or_false, ge_iff_le]
  grind

/-- The components of a definition path that are the function's own: all but the crate, or the
only one. -/
def ownComponents (path : String) : List (List Char) :=
  let parts := (Text.splitAtText [':', ':'] path.toList).filter fun p => !p.isEmpty
  if 1 < parts.length then parts.drop 1 else parts

/-- The name before its characters are looked at. -/
def rawName (path : String) : List Char :=
  if (Text.join ['-'] (ownComponents path)).isEmpty then "unnamed".toList
  else Text.join ['-'] (ownComponents path)

theorem toList_fileName (path : String) :
    (fileName path).toList = (rawName path).map fun c => if isFileNameChar c then c else '_' :=
  String.toList_ofList

theorem isNameChar_of_mem_fileName {path : String} {c : Char} (h : c ∈ (fileName path).toList) :
    IsNameChar c := by
  rw [toList_fileName, List.mem_map] at h
  obtain ⟨d, -, rfl⟩ := h
  split
  · rename_i hd
    exact (isFileNameChar_iff d).mp hd
  · exact .inr (by decide)

/-- A text without a colon is in one piece. -/
theorem splitAtText_of_noColon {cs : List Char} (h : ':' ∉ cs) :
    Text.splitAtText [':', ':'] cs = [cs] := by
  rw [Text.splitAtText]
  induction cs with
  | nil => rfl
  | cons c cs ih =>
    rw [List.mem_cons, not_or] at h
    have hstart : List.isPrefixOf [':', ':'] (c :: cs) = false := by
      simp [List.isPrefixOf, h.1]
    rw [Text.splitAfter, hstart, if_neg Bool.false_ne_true, ih h.2]
    rfl

theorem fileName_of_isNameChar {name : String} (hempty : name ≠ "")
    (h : ∀ c ∈ name.toList, IsNameChar c) : fileName name = name := by
  have hne : name.toList ≠ [] := fun hnil => hempty (String.toList_eq_nil_iff.mp hnil)
  have hcolon : ':' ∉ name.toList := fun hmem => absurd (h _ hmem) (by
    rw [← isFileNameChar_iff]
    decide)
  have hown : ownComponents name = [name.toList] := by
    simp [ownComponents, splitAtText_of_noColon hcolon, hne]
  have hraw : rawName name = name.toList := by
    rw [rawName, hown]
    exact if_neg (by simpa [Text.join] using hne)
  refine String.toList_injective ?_
  rw [toList_fileName, hraw]
  conv => rhs; rw [← List.map_id name.toList]
  refine List.map_congr_left fun c hc => if_pos ((isFileNameChar_iff c).mpr (h c hc))

/-! ### File names of dots -/

theorem join_eq_dots {pieces : List (List Char)} {dots : List Char} (hne : dots ≠ [])
    (hdots : ∀ c ∈ dots, c = '.') : Text.join ['-'] pieces = dots ↔ pieces = [dots] := by
  constructor
  · intro h
    rcases pieces with _ | ⟨piece, _ | ⟨second, pieces⟩⟩
    · exact absurd h.symm hne
    · rw [← h]
      rfl
    · have hdash : '-' ∈ dots := by
        rw [← h, Text.join]
        · simp
        · simp
      exact absurd (hdots _ hdash) (by decide)
  · rintro rfl
    rfl

/-- A file name is made of dots only if these are all that the path has for it. -/
theorem fileName_eq_dots {path : String} {dots : List Char} (hne : dots ≠ [])
    (hdots : ∀ c ∈ dots, c = '.') :
    fileName path = String.ofList dots ↔ ownComponents path = [dots] := by
  have hclean : fileName path = String.ofList dots ↔ rawName path = dots := by
    rw [← String.toList_inj, toList_fileName, String.toList_ofList]
    constructor
    · intro h
      -- What takes the place of other characters is not a dot, so nothing was replaced.
      have hkept : ∀ c ∈ rawName path, (if isFileNameChar c then c else '_') = c := by
        intro c hc
        have hdot := hdots _ (h ▸ List.mem_map_of_mem hc)
        split at hdot
        · rename_i hchar
          exact if_pos hchar
        · exact absurd hdot (by decide)
      rw [← h, List.map_congr_left hkept, List.map_id']
    · intro h
      rw [h]
      conv => rhs; rw [← List.map_id dots]
      refine List.map_congr_left fun c hc => ?_
      rw [hdots c hc]
      rfl
  rw [hclean, ← join_eq_dots hne hdots, rawName]
  -- The name that stands for an empty one has no dots.
  split
  · rename_i hempty
    rw [List.isEmpty_iff.mp hempty]
    refine iff_of_false (fun h => ?_) (Ne.symm hne)
    exact absurd (hdots 'u' (h ▸ by decide)) (by decide)
  · rfl

/-- All that a path has for a file name is one dot or two. -/
def IsDotted (path : String) : Prop :=
  ownComponents path = [['.']] ∨ ownComponents path = [['.', '.']]

theorem proper_iff (path : String) :
    fileName path ≠ "." ∧ fileName path ≠ ".." ↔ ¬ IsDotted path := by
  have hone : fileName path = "." ↔ ownComponents path = [['.']] :=
    fileName_eq_dots (by decide) (by simp)
  have htwo : fileName path = ".." ↔ ownComponents path = [['.', '.']] :=
    fileName_eq_dots (by decide) (by simp)
  rw [IsDotted, not_or, ← hone, ← htwo]

/-! ### Directories of functions -/

theorem keyOf_below (p : Path) {c : String} (h : c ≠ "..") :
    keyOf (p.below c) = (keyOf p).down c := by
  rw [Path.below, FileTree.keyOf_concat, if_neg h]

namespace Settings

/-- The facts and the report of a file name lie in a directory of that name, right below the
directory of all the facts. -/
structure Encloses (s : Settings) (name : String) : Prop where
  facts : keyOf (s.factsPath name) = (keyOf (Path.ofText s.factsDir)).down name
  report : keyOf (s.reportPath name) = ((keyOf (Path.ofText s.factsDir)).down name).down "graph.dot"

variable {s : Settings} {name : String}

theorem factsPath_dot (s : Settings) : s.factsPath "." = Path.ofText s.factsDir := by
  have hdot : Path.ofText "." = ⟨"", []⟩ := by decide
  rw [factsPath, Path.child, hdot, Path.append, if_pos rfl, List.append_nil]

theorem encloses_iff (hslash : '/' ∉ name.toList) (hempty : name ≠ "") :
    s.Encloses name ↔ name ≠ "." ∧ name ≠ ".." := by
  constructor
  · intro h
    constructor
    -- One dot names the directory of all the facts, two dots the one above it.
    · rintro rfl
      have hfacts := h.facts
      rw [factsPath_dot] at hfacts
      exact absurd (congrArg FileTree.Key.parts hfacts) (by simp [FileTree.Key.down])
    · rintro rfl
      have hfacts := h.facts
      rw [factsPath_eq s hslash hempty (by decide), Path.below, FileTree.keyOf_concat,
        if_pos rfl] at hfacts
      exact FileTree.Key.up_ne_down _ _ hfacts
  · rintro ⟨hdot, hup⟩
    have hfacts : keyOf (s.factsPath name) = (keyOf (Path.ofText s.factsDir)).down name := by
      rw [factsPath_eq s hslash hempty hdot, keyOf_below _ hup]
    exact ⟨hfacts, by rw [reportPath_eq, keyOf_below _ (by decide), hfacts]⟩

end Settings

/-- What is written for a function lies in its directory. -/
theorem Pipeline.dumped_within {p : Pipeline} {files : FileTree} {f : Function}
    (h : p.settings.Encloses (fileName f.path)) {k : FileTree.Key}
    (hk : (p.dumped files f).1.node? k ≠ files.node? k) :
    ∃ c, k = ((keyOf (Path.ofText p.settings.factsDir)).down (fileName f.path)).down c := by
  have hmem : k ∈ p.reportKeys files f := by
    by_contra hnot
    exact hk ((p.dumped_differsAt files f).same k hnot)
  obtain ⟨q, hq, hlocated⟩ := FileTree.mem_locatedKeys.mp hmem
  rw [FileTree.keyOf_of_locate hlocated]
  rcases List.mem_pair.mp hq with rfl | rfl
  · exact ⟨_, by rw [keyOf_below _ (by decide), directoryOf, h.facts]⟩
  · exact ⟨_, by rw [keyOf_below _ (by decide), directoryOf, h.facts]⟩

/-- A file name is a directory of its own below that of all the facts, and what is written for
a function stays in it, exactly if the path is not dotted. -/
theorem fileName_enclosed (path : String) :
    fileName path ≠ "" ∧ (∀ c ∈ (fileName path).toList, IsNameChar c) ∧
      fileName (fileName path) = fileName path ∧
      (fileName path ≠ "." ∧ fileName path ≠ ".." ↔ ¬ IsDotted path) ∧
      (∀ s : Settings, s.Encloses (fileName path) ↔ ¬ IsDotted path) ∧
      ∀ (p : Pipeline) (files : FileTree) (f : Function), f.path = path → ¬ IsDotted path → ∀ k,
        (p.dumped files f).1.node? k ≠ files.node? k →
          ∃ c, k = ((keyOf (Path.ofText p.settings.factsDir)).down (fileName path)).down c := by
  have hchars : ∀ c ∈ (fileName path).toList, IsNameChar c := fun c => isNameChar_of_mem_fileName
  have hencloses : ∀ s : Settings, s.Encloses (fileName path) ↔ ¬ IsDotted path := fun s => by
    rw [Settings.encloses_iff (noSlash_fileName path) (fileName_ne_empty path), proper_iff]
  refine ⟨fileName_ne_empty path, hchars, fileName_of_isNameChar (fileName_ne_empty path) hchars,
    proper_iff path, hencloses, ?_⟩
  rintro p files f rfl hdotted k hk
  exact Pipeline.dumped_within ((hencloses p.settings).mpr hdotted) hk

/-- The report of a function whose own component is two dots is written beside the directory of
the facts, and the facts of one whose own component is one dot are those of no function. -/
theorem dottedPaths_escape :
    fileName "krate::.." = ".." ∧
      keyOf (({} : Settings).reportPath (fileName "krate::..")) = ⟨.working, ["graph.dot"]⟩ ∧
      keyOf (Path.ofText ({} : Settings).factsDir) = ⟨.working, ["nll-facts"]⟩ ∧
      ({} : Settings).factsPath (fileName "krate::.") = Path.ofText ({} : Settings).factsDir := by
  decide

/-! ### File names of different components -/

/-- A component of a definition path: a text that is not empty, of the characters of file names
without the dash. -/
structure IsComponent (c : String) : Prop where
  ne_empty : c ≠ ""
  chars : ∀ x ∈ c.toList, IsNameChar x ∧ x ≠ '-'

/-- The path of a definition in a crate, with its components. -/
def definitionPath (crate : String) (components : List String) : String :=
  "::".intercalate (crate :: components)

theorem Text.join_eq_intercalate (sep : List Char) (pieces : List (List Char)) :
    join sep pieces = sep.intercalate pieces := by
  induction pieces with
  | nil => rfl
  | cons piece pieces ih =>
    cases pieces with
    | nil => rw [join, List.intercalate_singleton]
    | cons second pieces =>
      rw [join, ih, List.intercalate_cons_cons]
      exact List.cons_ne_nil _ _

/-- A piece without a colon ends at the first pair of colons. -/
theorem splitAtText_append {piece rest : List Char} (h : ':' ∉ piece) :
    Text.splitAtText [':', ':'] (piece ++ (':' :: ':' :: rest)) =
      piece :: Text.splitAtText [':', ':'] rest := by
  induction piece with
  | nil => rfl
  | cons c piece ih =>
    rw [List.mem_cons, not_or] at h
    have hstart : List.isPrefixOf [':', ':'] (c :: (piece ++ (':' :: ':' :: rest))) = false := by
      simp [List.isPrefixOf, h.1]
    have hrest := ih h.2
    rw [Text.splitAtText] at hrest ⊢
    rw [List.cons_append, Text.splitAfter, hstart, if_neg Bool.false_ne_true, hrest]
    rfl

/-- Pieces without colons are found again. -/
theorem splitAtText_intercalate {pieces : List (List Char)} (hne : pieces ≠ [])
    (h : ∀ piece ∈ pieces, ':' ∉ piece) :
    Text.splitAtText [':', ':'] ([':', ':'].intercalate pieces) = pieces := by
  induction pieces with
  | nil => exact absurd rfl hne
  | cons piece pieces ih =>
    rw [List.forall_mem_cons] at h
    cases pieces with
    | nil => rw [List.intercalate_singleton, splitAtText_of_noColon h.1]
    | cons second pieces =>
      rw [List.intercalate_cons_cons, List.append_assoc, List.cons_append, List.cons_append,
        List.nil_append, splitAtText_append h.1, ih (List.cons_ne_nil _ _) h.2]

theorem isComponent_iff (c : String) :
    IsComponent c ↔ c ≠ "" ∧ (c.toList.all fun x => isFileNameChar x && x != '-') = true := by
  simp only [List.all_eq_true, Bool.and_eq_true, isFileNameChar_iff, bne_iff_ne]
  exact ⟨fun h => ⟨h.ne_empty, h.chars⟩, fun h => ⟨h.1, h.2⟩⟩

instance : DecidablePred IsComponent := fun c => decidable_of_iff _ (isComponent_iff c).symm

namespace IsComponent

variable {c : String}

theorem noColon (h : IsComponent c) : ':' ∉ c.toList := fun hmem =>
  absurd (h.chars _ hmem).1 (by
    rw [← isFileNameChar_iff]
    decide)

theorem noDash (h : IsComponent c) : '-' ∉ c.toList := fun hmem => (h.chars _ hmem).2 rfl

theorem toList_ne_nil (h : IsComponent c) : c.toList ≠ [] := fun hnil =>
  h.ne_empty (String.toList_eq_nil_iff.mp hnil)

end IsComponent

section Components

variable {crate : String} {components : List String}

/-- A function's own components are all those after the crate. -/
theorem ownComponents_definitionPath (hcrate : crate ≠ "") (hcolon : ':' ∉ crate.toList)
    (hne : components ≠ []) (h : ∀ c ∈ components, IsComponent c) :
    ownComponents (definitionPath crate components) = components.map String.toList := by
  have hpieces : Text.splitAtText [':', ':'] (definitionPath crate components).toList =
      crate.toList :: components.map String.toList := by
    rw [definitionPath, String.toList_intercalate]
    refine splitAtText_intercalate (List.cons_ne_nil _ _) ?_
    rw [List.map_cons, List.forall_mem_cons, List.forall_mem_map]
    exact ⟨hcolon, fun c hc => (h c hc).noColon⟩
  have hfull : (crate.toList :: components.map String.toList).filter (fun p => !p.isEmpty) =
      crate.toList :: components.map String.toList := by
    refine List.filter_eq_self.mpr ?_
    rw [List.forall_mem_cons, List.forall_mem_map]
    exact ⟨by simpa using hcrate, fun c hc => by simpa using (h c hc).ne_empty⟩
  have hlength : 1 < (crate.toList :: components.map String.toList).length := by
    have := List.length_pos_iff.mpr hne
    simp only [List.length_cons, List.length_map]
    omega
  rw [ownComponents, hpieces, hfull, if_pos hlength, List.drop_one, List.tail_cons]

/-- The file name is made of the components alone, with dashes between them. -/
theorem toList_fileName_definitionPath (hcrate : crate ≠ "") (hcolon : ':' ∉ crate.toList)
    (hne : components ≠ []) (h : ∀ c ∈ components, IsComponent c) :
    (fileName (definitionPath crate components)).toList =
      ['-'].intercalate (components.map String.toList) := by
  have hraw : rawName (definitionPath crate components) =
      ['-'].intercalate (components.map String.toList) := by
    rw [rawName, ownComponents_definitionPath hcrate hcolon hne h, Text.join_eq_intercalate]
    refine if_neg fun hempty => ?_
    obtain ⟨c, rest, rfl⟩ := List.exists_cons_of_ne_nil hne
    obtain ⟨x, hx⟩ := List.exists_mem_of_ne_nil _ (h c List.mem_cons_self).toList_ne_nil
    have hmem : x ∈ ['-'].intercalate ((c :: rest).map String.toList) :=
      Text.mem_intercalate_of_mem (List.mem_map_of_mem List.mem_cons_self) hx
    rw [List.isEmpty_iff.mp hempty] at hmem
    cases hmem
  -- Nothing is replaced: the characters of the components are kept, and so is the dash.
  rw [toList_fileName, hraw]
  conv => rhs; rw [← List.map_id (['-'].intercalate (components.map String.toList))]
  refine List.map_congr_left fun x hx => if_pos ((isFileNameChar_iff x).mpr ?_)
  rcases Text.of_mem_intercalate hx with rfl | ⟨f, hf, hx⟩
  · exact .inr (by decide)
  · obtain ⟨c, hc, rfl⟩ := List.mem_map.mp hf
    exact ((h c hc).chars x hx).1

/-- The components can be told apart again. -/
theorem splitOn_components (hne : components ≠ []) (h : ∀ c ∈ components, IsComponent c) :
    (['-'].intercalate (components.map String.toList)).splitOn '-' =
      components.map String.toList := by
  refine List.splitOn_intercalate '-' ?_ (by simpa using hne)
  rw [List.forall_mem_map]
  exact fun c hc => (h c hc).noDash

end Components

/-- Different file names have different reports. -/
theorem Settings.reportPath_injective (s : Settings) {name other : String}
    (hname : '/' ∉ name.toList)
    (hother : '/' ∉ other.toList) (hempty : name ≠ "") (hempty' : other ≠ "")
    (h : s.reportPath name = s.reportPath other) : name = other := by
  have hfacts : (s.factsPath name).parts = (s.factsPath other).parts := by
    rw [reportPath_eq, reportPath_eq] at h
    exact List.append_cancel_right (congrArg Path.parts h)
  by_cases hdot : name = "." <;> by_cases hdot' : other = "."
  · rw [hdot, hdot']
  · rw [hdot, factsPath_dot, factsPath_eq s hother hempty' hdot'] at hfacts
    exact absurd hfacts (by simp [Path.below])
  · rw [hdot', factsPath_dot, factsPath_eq s hname hempty hdot] at hfacts
    exact absurd hfacts (by simp [Path.below])
  · rw [factsPath_eq s hname hempty hdot, factsPath_eq s hother hempty' hdot'] at hfacts
    exact List.singleton_inj.mp (List.append_cancel_left hfacts)

/-- **No two functions of a crate share a report.**  Definition paths in a crate that differ in
their components have different file names, and with any settings their reports have different
paths. -/
theorem fileName_separates {crate : String} (hcrate : crate ≠ "") (hcolon : ':' ∉ crate.toList)
    {cs ds : List String} (hcs : cs ≠ []) (hds : ds ≠ []) (hc : ∀ c ∈ cs, IsComponent c)
    (hd : ∀ d ∈ ds, IsComponent d) (hne : cs ≠ ds) :
    fileName (definitionPath crate cs) ≠ fileName (definitionPath crate ds) ∧
      ∀ s : Settings, s.reportPath (fileName (definitionPath crate cs)) ≠
        s.reportPath (fileName (definitionPath crate ds)) := by
  have hnames : fileName (definitionPath crate cs) ≠ fileName (definitionPath crate ds) := by
    intro heq
    have hjoined : ['-'].intercalate (cs.map String.toList) =
        ['-'].intercalate (ds.map String.toList) := by
      rw [← toList_fileName_definitionPath hcrate hcolon hcs hc, heq,
        toList_fileName_definitionPath hcrate hcolon hds hd]
    have hmap : cs.map String.toList = ds.map String.toList := by
      rw [← splitOn_components hcs hc, hjoined, splitOn_components hds hd]
    exact hne ((List.map_inj_right fun _ _ => String.toList_injective).mp hmap)
  refine ⟨hnames, fun s hreport => hnames ?_⟩
  exact s.reportPath_injective (noSlash_fileName _) (noSlash_fileName _) (fileName_ne_empty _)
    (fileName_ne_empty _) hreport

/-- A closure in a function of a module is not taken for one of a function whose name spells
module and function. -/
theorem closurePath_separates :
    (∀ c ∈ ["m", "f", "\x7b\x7bclosure\x7d\x7d#0"], IsComponent c) ∧
      (∀ d ∈ ["m_f", "\x7b\x7bclosure\x7d\x7d#0"], IsComponent d) ∧
      fileName (definitionPath "krate" ["m", "f", "\x7b\x7bclosure\x7d\x7d#0"]) ≠
        fileName (definitionPath "krate" ["m_f", "\x7b\x7bclosure\x7d\x7d#0"]) := by
  have hc : ∀ c ∈ ["m", "f", "\x7b\x7bclosure\x7d\x7d#0"], IsComponent c := by decide
  have hd : ∀ d ∈ ["m_f", "\x7b\x7bclosure\x7d\x7d#0"], IsComponent d := by decide
  exact ⟨hc, hd,
    (fileName_separates (by decide) (by decide) (by simp) (by simp) hc hd (by decide)).1⟩

end BorrowGraph
