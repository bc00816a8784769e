/-
How reading a bundle fails.

A bundle that cannot be read is reported by one kind of diagnostic, which names the file.
Reading an entry of the bundle has few kinds of faults, and all but one of them are reported
like this (`Function.read_fails`): asking an infinite number for its whole part is not.
Besides that there are four ways to fail without a diagnostic, three of them before there is a
document: `Escapes` lists them all, and the list is exact (`load_contained`).
-/
import BorrowGraph.Proofs.DocumentErrors
import BorrowGraph.Proofs.FileTrees
import BorrowGraph.Proofs.PipelineRuns
import BorrowGraph.Proofs.Utf8Text

namespace BorrowGraph

theorem Assoc.mem_of_get? {κ α : Type} [DecidableEq κ] {key : κ} {value : α}
    {entries : List (κ × α)}
    (h : get? key entries = some value) : (key, value) ∈ entries := by
  induction entries with
  | nil => cases h
  | cons entry entries ih =>
    rw [get?] at h
    split at h
    · rename_i hkey
      cases h
      exact hkey ▸ List.mem_cons_self
    · exact List.mem_cons_of_mem _ (ih h)

/-! ### Values that are asked for something -/

namespace Value

/-- A value occurs in another one. -/
inductive Holds (x : Value) : Value → Prop
  | self : Holds x x
  | item {items : List Value} {v : Value} (h : v ∈ items) (hv : Holds x v) : Holds x (.list items)
  | field {fields : List (String × Value)} {name : String} {v : Value} (h : (name, v) ∈ fields)
      (hv : Holds x v) : Holds x (.table fields)

/-- An infinite number occurs in a value. -/
def HasInfinite (v : Value) : Prop :=
  ∃ negative, Holds (.float (.infinite negative)) v

/-- The faults that reading parts of a value may have. -/
def Blames (v : Value) (f : Fault) : Prop :=
  Bundle.isEntryFault f = true ∨ f = .infinite ∧ v.HasInfinite

variable {v w : Value} {name : String}

theorem Blames.mono (h : w.HasInfinite → v.HasInfinite) (f : Fault) (hf : w.Blames f) :
    v.Blames f :=
  hf.imp_right fun hf => ⟨hf.1, h hf.2⟩

theorem not_hasInfinite_text (s : String) : ¬ (Value.text s).HasInfinite := by
  rintro ⟨negative, h⟩
  cases h

theorem HasInfinite.of_fields {fs : List (String × Value)} (h : v.fields = .ok fs)
    (hmem : (name, w) ∈ fs) (hw : w.HasInfinite) : v.HasInfinite := by
  rw [fields.eq_def] at h
  split at h
  · cases h
    obtain ⟨negative, hw⟩ := hw
    exact ⟨negative, .field hmem hw⟩
  · cases h

theorem HasInfinite.of_field? (h : v.field? name = .ok (some w)) (hw : w.HasInfinite) :
    v.HasInfinite := by
  obtain ⟨fs, hfs, hget⟩ := bind_eq_ok.mp h
  exact hw.of_fields hfs (Assoc.mem_of_get? (Except.ok.inj hget))

theorem HasInfinite.of_present? (h : v.present? name = .ok (some w)) (hw : w.HasInfinite) :
    v.HasInfinite := by
  obtain ⟨o, hfield, h⟩ := bind_eq_ok.mp h
  split at h
  · cases h
  · cases h
  · cases h
    exact hw.of_field? hfield

theorem HasInfinite.of_require (h : v.require name = .ok w) (hw : w.HasInfinite) :
    v.HasInfinite := by
  rw [require.eq_def] at h
  split at h
  · split at h
    · rename_i hget
      cases h
      exact hw.of_fields rfl (Assoc.mem_of_get? hget)
    · cases h
  · cases h

theorem HasInfinite.of_elements {ws : List Value} (h : v.elements = .ok ws) (hmem : w ∈ ws)
    (hw : w.HasInfinite) : v.HasInfinite := by
  rw [elements.eq_def] at h
  split at h
  · cases h
    obtain ⟨negative, hw⟩ := hw
    exact ⟨negative, .item hmem hw⟩
  -- The elements of a text and of a table are texts, which hold no numbers.
  · cases h
    obtain ⟨c, -, rfl⟩ := List.mem_map.mp hmem
    exact absurd hw (not_hasInfinite_text _)
  · cases h
    obtain ⟨⟨k, u⟩, -, rfl⟩ := List.mem_map.mp hmem
    exact absurd hw (not_hasInfinite_text _)
  · cases h

theorem HasInfinite.of_elementsOf {ws : List Value} (h : v.elementsOf name = .ok ws) (hmem : w ∈ ws)
    (hw : w.HasInfinite) : v.HasInfinite := by
  obtain ⟨o, hfield, h⟩ := bind_eq_ok.mp h
  cases o with
  | none =>
    cases h
    cases hmem
  | some u => exact (hw.of_elements h hmem).of_field? hfield

theorem fields_fails (v : Value) : FailsOnly v.Blames v.fields := by
  rw [fields.eq_def]
  split
  · exact .ok _
  · exact .error (.inl rfl)

theorem field?_fails (v : Value) (name : String) : FailsOnly v.Blames (v.field? name) :=
  .bind v.fields_fails fun _ _ => .ok _

theorem present?_fails (v : Value) (name : String) : FailsOnly v.Blames (v.present? name) := by
  refine .bind (v.field?_fails name) fun o _ => ?_
  split
  · exact .ok _
  · exact .ok _
  · exact .ok _

theorem require_fails (v : Value) (name : String) : FailsOnly v.Blames (v.require name) := by
  rw [require.eq_def]
  split
  · split
    · exact .ok _
    · exact .error (.inl rfl)
  · exact .error (.inl rfl)

theorem elements_fails (v : Value) : FailsOnly v.Blames v.elements := by
  rw [elements.eq_def]
  split
  · exact .ok _
  · exact .ok _
  · exact .ok _
  · exact .error (.inl rfl)

theorem elementsOf_fails (v : Value) (name : String) : FailsOnly v.Blames (v.elementsOf name) := by
  refine .bind (v.field?_fails name) fun o ho => ?_
  cases o with
  | none => exact .ok _
  | some w => exact w.elements_fails.mono (Blames.mono (HasInfinite.of_field? ho))

theorem textOf_fails (v : Value) (name : String) : FailsOnly v.Blames (v.textOf name) :=
  .bind (v.field?_fails name) fun _ _ => .ok _

theorem isEntryFault_ofDecimal (cs : List Char) (problem : Decimal.Problem) :
    Bundle.isEntryFault (Fault.ofDecimal cs problem) = true := by
  cases problem <;> rfl

/-- Only an infinite number has no whole part and is not reported as malformed. -/
theorem toInteger_fails (v : Value) : FailsOnly v.Blames v.toInteger := by
  rw [toInteger.eq_def]
  split
  · exact .ok _
  · exact .ok _
  · exact .error (.inl rfl)
  · rename_i negative
    exact .error (.inr ⟨rfl, negative, .self⟩)
  · exact .ok _
  · rename_i s
    intro f hf
    obtain ⟨problem, -, rfl⟩ := mapError_eq_error.mp hf
    exact .inl (isEntryFault_ofDecimal _ problem)
  · exact .error (.inl rfl)

end Value

/-! ### Reading an entry -/

theorem Spelling.number_fails (v : Value) (run : List Char) : FailsOnly v.Blames (number run) := by
  rw [number]
  split
  · exact .ok _
  · exact .error (.inl (Value.isEntryFault_ofDecimal run _))

theorem Local.read_fails (v : Value) (s : String) : FailsOnly v.Blames (Local.read s) := by
  rw [Local.read, Spelling.readOne]
  split
  · exact Spelling.number_fails v _
  · exact .error (.inl rfl)

theorem Location.read_fails (v : Value) (s : String) : FailsOnly v.Blames (Location.read s) := by
  rw [Location.read]
  split
  · exact .bind (Spelling.number_fails v _) fun _ _ =>
      .bind (Spelling.number_fails v _) fun _ _ => .ok _
  · exact .error (.inl rfl)

theorem Place.read_fails (v : Value) : FailsOnly v.Blames (Place.read v) := by
  rw [Place.read.eq_def]
  split
  · exact .bind (Local.read_fails _ _) fun _ _ => .ok _
  · refine .bind (v.require_fails "local") fun w hw => ?_
    refine .bind (w.toInteger_fails.mono (Value.Blames.mono (.of_require hw))) fun _ _ => ?_
    exact .bind (v.elementsOf_fails "projection") fun _ _ => .ok _

theorem Place.readField_fails (v : Value) (name : String) :
    FailsOnly v.Blames (Place.readField v name) := by
  refine .bind (v.present?_fails name) fun o ho => ?_
  cases o with
  | none => exact .ok _
  | some w =>
    exact .bind ((Place.read_fails w).mono (Value.Blames.mono (.of_present? ho))) fun _ _ => .ok _

theorem readMember_fails {α : Type} (v w : Value) (ofText? : String → Option α) (noun : String) :
    FailsOnly v.Blames (readMember ofText? noun w) := by
  rw [readMember.eq_def]
  split
  · split
    · exact .ok _
    · exact .error (.inl rfl)
  · exact .error (.inl rfl)

theorem Statement.read_fails (v : Value) : FailsOnly v.Blames (Statement.read v) := by
  refine .bind (v.require_fails "kind") fun w _ => .bind (readMember_fails v w _ _) fun _ _ => ?_
  exact .bind (Place.readField_fails v "place") fun _ _ => .bind (v.textOf_fails "text") fun _ _ =>
    .ok _

theorem readTargets_fails (v : Value) (name : String) :
    FailsOnly v.Blames (readTargets v name) := by
  refine .bind (v.elementsOf_fails name) fun ws hws => .mapM fun w hw => ?_
  exact w.toInteger_fails.mono (Value.Blames.mono (.of_elementsOf hws hw))

theorem Terminator.read_fails (v : Value) : FailsOnly v.Blames (Terminator.read v) := by
  refine .bind (v.require_fails "kind") fun w _ => .bind (readMember_fails v w _ _) fun _ _ => ?_
  refine .bind (v.textOf_fails "text") fun _ _ => .bind (readTargets_fails v "targets") fun _ _ =>
    ?_
  refine .bind (v.present?_fails "unwind") fun o ho =>
    .bind (.mapM_option fun w hw => ?_) fun _ _ => ?_
  · subst hw
    exact w.toInteger_fails.mono (Value.Blames.mono (.of_present? ho))
  · refine .bind (readTargets_fails v "imaginary_targets") fun _ _ => ?_
    refine .bind (Place.readField_fails v "destination") fun _ _ => ?_
    exact .bind (v.field?_fails "func") fun _ _ => .ok _

theorem Block.read_fails (index : Nat) (v : Value) : FailsOnly v.Blames (Block.read index v) := by
  refine .bind (v.elementsOf_fails "statements") fun ws hws =>
    .bind (.mapM fun w hw => ?_) fun _ _ => ?_
  · exact (Statement.read_fails w).mono (Value.Blames.mono (.of_elementsOf hws hw))
  · refine .bind (v.present?_fails "terminator") fun o ho =>
      .bind (.mapM_option fun w hw => ?_) fun _ _ => .ok _
    subst hw
    exact (Terminator.read_fails w).mono (Value.Blames.mono (.of_present? ho))

theorem LocalDecl.read_fails (index : Nat) (v : Value) :
    FailsOnly v.Blames (LocalDecl.read index v) :=
  .bind (v.textOf_fails "ty") fun _ _ => .bind (v.field?_fails "name") fun _ _ => .ok _

theorem readIndexed_fails {α : Type} {P : Fault → Prop} {read : Nat → Value → Except Fault α}
    {vs : List Value} (h : ∀ n, ∀ v ∈ vs, FailsOnly P (read n v)) (start : Nat) :
    FailsOnly P (readIndexed read start vs) := by
  induction vs generalizing start with
  | nil => exact .ok _
  | cons v vs ih =>
    refine .bind (h start v List.mem_cons_self) fun _ _ => ?_
    exact .bind (ih (fun n w hw => h n w (List.mem_cons_of_mem v hw)) (start + 1)) fun _ _ => .ok _

theorem Body.read_fails (v : Value) : FailsOnly v.Blames (Body.read v) := by
  refine .bind (v.elementsOf_fails "local_decls") fun ws hws =>
    .bind (readIndexed_fails (fun n w hw => ?_) 0) fun locals _ => ?_
  · exact (LocalDecl.read_fails n w).mono (Value.Blames.mono (.of_elementsOf hws hw))
  refine .bind (v.elementsOf_fails "basic_blocks") fun ws hws =>
    .bind (readIndexed_fails (fun n w hw => ?_) 0) fun blocks _ => ?_
  · exact (Block.read_fails n w).mono (Value.Blames.mono (.of_elementsOf hws hw))
  rw [Body.ofBlocks]
  split
  · exact .error (.inl rfl)
  · exact .ok _

namespace Initialization

theorem readRows_fails {κ : Type} [DecidableEq κ] {v : Value} {readKey : String → Except Fault κ}
    (hkey : ∀ k, FailsOnly v.Blames (readKey k)) {rows : List (String × Value)}
    (hrows : ∀ row ∈ rows, row.2.HasInfinite → v.HasInfinite) :
    FailsOnly v.Blames (readRows readKey rows) := by
  refine .bind (.mapM fun row hrow => ?_) fun _ _ => .ok _
  refine .bind (hkey row.1) fun _ _ => .bind (.bind ?_ fun _ _ => .ok _) fun _ _ => .ok _
  exact row.2.elements_fails.mono (Value.Blames.mono (hrows row hrow))

theorem rowsOf_fails (v : Value) (name : String) : FailsOnly v.Blames (rowsOf v name) := by
  refine .bind (v.field?_fails name) fun o ho => ?_
  cases o with
  | none => exact .ok _
  | some w => exact w.fields_fails.mono (Value.Blames.mono (.of_field? ho))

theorem hasInfinite_of_rowsOf {v : Value} {name : String} {rows : List (String × Value)}
    (h : rowsOf v name = .ok rows) {row : String × Value} (hrow : row ∈ rows)
    (hinf : row.2.HasInfinite) : v.HasInfinite := by
  obtain ⟨o, hfield, h⟩ := bind_eq_ok.mp h
  cases o with
  | none =>
    cases h
    cases hrow
  | some w => exact (hinf.of_fields h hrow).of_field? hfield

theorem read_fails (v : Value) : FailsOnly v.Blames (Initialization.read v) := by
  refine .bind (rowsOf_fails v "before_block") fun rows hrows => ?_
  refine .bind (readRows_fails (fun k => ?_) fun row => hasInfinite_of_rowsOf hrows) fun _ _ => ?_
  · exact (Value.text k).toInteger_fails.mono
      (Value.Blames.mono fun h => absurd h (Value.not_hasInfinite_text k))
  refine .bind (rowsOf_fails v "after_statement") fun rows hrows => ?_
  exact .bind (readRows_fails (Location.read_fails v) fun row => hasInfinite_of_rowsOf hrows)
    fun _ _ => .ok _

end Initialization

/-- All faults of an entry but one are reported as a malformed entry; that one comes from an
infinite number. -/
theorem Function.read_fails (v : Value) : FailsOnly v.Blames (Function.read v) := by
  refine .bind (v.require_fails "name") fun _ _ => .bind (Body.read_fails v) fun _ _ => ?_
  refine .bind (v.present?_fails "initialization") fun o ho =>
    .bind (.mapM_option fun w hw => ?_) fun _ _ => ?_
  · subst hw
    exact (Initialization.read_fails w).mono (Value.Blames.mono (.of_present? ho))
  · exact .bind (v.field?_fails "def_path") fun _ _ => .ok _

/-! ### Reading a bundle -/

namespace Bundle

/-- The text of a file. -/
def HasText (files : FileTree) (path : Path) (source : List Char) : Prop :=
  ∃ bytes chars, files.readBytes path = .ok bytes ∧ Utf8.decode bytes = .ok chars ∧
    source = Text.unifyLineEnds chars

/-- The document in a file. -/
def HasDocument (files : FileTree) (path : Path) (document : Value) : Prop :=
  ∃ source, HasText files path source ∧ Json.read .standard source = .ok document

/-- The entries of the bundle in a file. -/
def HasEntries (files : FileTree) (path : Path) (entries : List Value) : Prop :=
  ∃ fields, HasDocument files path (.table fields) ∧
    ((Assoc.get? "functions" fields).getD (.list [])).elements = .ok entries

/-- The functions of the bundle in a file: what its entries are read as, in their order. -/
def Lists (files : FileTree) (path : Path) (functions : List Function) : Prop :=
  ∃ entries, HasEntries files path entries ∧
    List.Forall₂ (fun v f => Function.read v = .ok f) entries functions

/-- The ways in which reading a bundle fails without a diagnostic. -/
inductive Escapes (files : FileTree) (path : Path) : Fault → Prop
  | nullInPath (h : path.hasNull = true) : Escapes files path .nullInPath
  | longNumeral {source : List Char} {n : Nat} (h : HasText files path source)
      (hread : Json.read .standard source = .error (.tooLong n)) (hlong : 4300 < n)
      (hdigits : Json.HasDigits source n) : Escapes files path (.tooManyDigits n)
  | deepNesting {source : List Char} (h : HasText files path source)
      (hread : Json.read .standard source = .error .tooDeep) (hdeep : 985 < Json.openings source) :
      Escapes files path .nestedTooDeeply
  /-- What should be the list of functions cannot be gone through. -/
  | noElements {fields : List (String × Value)} {v : Value}
      (h : HasDocument files path (.table fields)) (hget : Assoc.get? "functions" fields = some v)
      (hlist : ∀ items, v ≠ .list items) (htext : ∀ s, v ≠ .text s) (htable : ∀ fs, v ≠ .table fs) :
      Escapes files path .wrongShape
  /-- The first entry that cannot be read has an infinite number in the place of a whole one. -/
  | infinite {before : List Value} {v : Value} {after : List Value}
      (h : HasEntries files path (before ++ v :: after))
      (hbefore : ∀ w ∈ before, ∃ f, Function.read w = .ok f)
      (hread : Function.read v = .error .infinite) (hv : v.HasInfinite) :
        Escapes files path .infinite

variable {files : FileTree} {path : Path}

/-! #### The entries in turn -/

theorem readFunctions_eq_ok {position : Nat} {vs : List Value} {fs : List Function} :
    readFunctions path position vs = .ok fs ↔
      List.Forall₂ (fun v f => Function.read v = .ok f) vs fs := by
  induction vs generalizing position fs with
  | nil =>
    rw [readFunctions, List.forall₂_nil_left_iff]
    exact ⟨fun h => (Except.ok.inj h).symm, fun h => h ▸ rfl⟩
  | cons v vs ih =>
    rw [readFunctions, List.forall₂_cons_left_iff]
    rcases Function.read v with e | f
    · simp
    · constructor
      · intro h
        obtain ⟨fs', hfs', h⟩ := bind_eq_ok.mp h
        cases h
        exact ⟨f, fs', rfl, ih.mp hfs', rfl⟩
      · rintro ⟨f', fs', hf', hfs', rfl⟩
        cases hf'
        exact bind_eq_ok.mpr ⟨fs', ih.mpr hfs', rfl⟩

/-- Reading the entries fails as the first of them that cannot be read says. -/
theorem readFunctions_eq_error {position : Nat} {vs : List Value} {e : Failure} :
    readFunctions path position vs = .error e ↔
      ∃ before v after f, vs = before ++ v :: after ∧ (∀ w ∈ before, ∃ g, Function.read w = .ok g) ∧
        Function.read v = .error f ∧ e = entryFailure path (position + before.length) f := by
  induction vs generalizing position with
  | nil => simp [readFunctions]
  | cons v vs ih =>
    rw [readFunctions]
    rcases hv : Function.read v with f | g
    · -- Nothing stands before the first entry that cannot be read.
      constructor
      · intro h
        exact ⟨[], v, vs, f, rfl, by simp, hv, (Except.error.inj h).symm⟩
      · rintro ⟨_ | ⟨w, before⟩, u, after, f', heq, hbefore, hu, rfl⟩
        · cases heq
          rw [hv] at hu
          cases hu
          rfl
        · cases heq
          obtain ⟨g, hg⟩ := hbefore v List.mem_cons_self
          rw [hv] at hg
          cases hg
    · -- The entries that are left begin one position later.
      constructor
      · intro h
        rcases bind_eq_error.mp h with hvs | ⟨fs, -, h⟩
        · obtain ⟨before, u, after, f, rfl, hbefore, hu, rfl⟩ := ih.mp hvs
          refine ⟨v :: before, u, after, f, rfl, List.forall_mem_cons.mpr ⟨⟨g, hv⟩, hbefore⟩, hu,
            ?_⟩
          rw [List.length_cons, Nat.add_assoc, Nat.add_comm 1]
        · cases h
      · rintro ⟨_ | ⟨w, before⟩, u, after, f, heq, hbefore, hu, rfl⟩
        · cases heq
          rw [hv] at hu
          cases hu
        · cases heq
          refine bind_eq_error.mpr (.inl (ih.mpr ⟨before, u, after, f, rfl, ?_, hu, ?_⟩))
          · exact fun w hw => hbefore w (List.mem_cons_of_mem _ hw)
          · rw [List.length_cons, Nat.add_assoc, Nat.add_comm 1]

theorem entryFailure_eq_fault {position : Nat} {v : Value} {f g : Fault}
    (hread : Function.read v = .error f) (h : entryFailure path position f = .fault g) :
    g = .infinite ∧ f = .infinite ∧ v.HasInfinite := by
  rw [entryFailure] at h
  split at h
  · cases h
  · rename_i hfault
    cases h
    rcases Function.read_fails v f hread with hentry | ⟨rfl, hv⟩
    · exact absurd hentry hfault
    · exact ⟨rfl, rfl, hv⟩

/-! #### The whole file -/

theorem read_of_hasText {source : List Char} (h : HasText files path source) :
    read files path = ((Json.read .standard source).mapError (documentFailure path source) >>=
      ofDocument path) := by
  obtain ⟨bytes, chars, hbytes, hchars, rfl⟩ := h
  rw [read, hbytes, Except.mapError, ok_bind, hchars, Except.mapError, ok_bind]

theorem read_of_hasDocument {document : Value} (h : HasDocument files path document) :
    read files path = ofDocument path document := by
  obtain ⟨source, htext, hread⟩ := h
  rw [read_of_hasText htext, hread, Except.mapError, ok_bind]

theorem read_of_hasEntries {entries : List Value} (h : HasEntries files path entries) :
    read files path = readFunctions path 0 entries := by
  obtain ⟨fields, hdocument, helements⟩ := h
  rw [read_of_hasDocument hdocument, ofDocument, helements]

theorem read_eq_ok {functions : List Function} :
    read files path = .ok functions ↔ Lists files path functions := by
  constructor
  · intro h
    obtain ⟨bytes, hbytes, h⟩ := bind_eq_ok.mp h
    obtain ⟨chars, hchars, h⟩ := bind_eq_ok.mp h
    obtain ⟨document, hdocument, h⟩ := bind_eq_ok.mp h
    have hdocument : HasDocument files path document :=
      ⟨_, ⟨bytes, chars, mapError_eq_ok.mp hbytes, mapError_eq_ok.mp hchars, rfl⟩,
        mapError_eq_ok.mp hdocument⟩
    rw [ofDocument.eq_def] at h
    split at h
    · split at h
      · rename_i entries helements
        exact ⟨entries, ⟨_, hdocument, helements⟩, readFunctions_eq_ok.mp h⟩
      · cases h
    · cases h
  · rintro ⟨entries, hentries, hread⟩
    rw [read_of_hasEntries hentries]
    exact readFunctions_eq_ok.mpr hread

/-- What ends the reading of a bundle, stage by stage. -/
inductive Stops (files : FileTree) (path : Path) : Failure → Prop
  | unreadable {f : Fault} (h : files.readBytes path = .error f) :
      Stops files path (fileFailure path f)
  | undecodable (message : String) : Stops files path (.diagnostic (diagnostic path message))
  | unparsable {source : List Char} {e : Json.Error} (h : HasText files path source)
      (hread : Json.read .standard source = .error e) :
      Stops files path (documentFailure path source e)
  | notATable (message : String) : Stops files path (.diagnostic (diagnostic path message))
  | noElements {fields : List (String × Value)} {f : Fault}
      (h : HasDocument files path (.table fields))
      (helements : ((Assoc.get? "functions" fields).getD (.list [])).elements = .error f) :
      Stops files path (.fault f)
  | entry {before : List Value} {v : Value} {after : List Value} {f : Fault}
      (h : HasEntries files path (before ++ v :: after))
      (hbefore : ∀ w ∈ before, ∃ g, Function.read w = .ok g) (hread : Function.read v = .error f) :
      Stops files path (entryFailure path before.length f)

theorem stops_of_read {e : Failure} (h : read files path = .error e) : Stops files path e := by
  rcases bind_eq_error.mp h with hbytes | ⟨bytes, hbytes, h⟩
  · obtain ⟨f, hf, rfl⟩ := mapError_eq_error.mp hbytes
    exact .unreadable hf
  rcases bind_eq_error.mp h with hchars | ⟨chars, hchars, h⟩
  · obtain ⟨problem, -, rfl⟩ := mapError_eq_error.mp hchars
    exact .undecodable _
  have htext : HasText files path (Text.unifyLineEnds chars) :=
    ⟨bytes, chars, mapError_eq_ok.mp hbytes, mapError_eq_ok.mp hchars, rfl⟩
  rcases bind_eq_error.mp h with hdocument | ⟨document, hdocument, h⟩
  · obtain ⟨problem, hproblem, rfl⟩ := mapError_eq_error.mp hdocument
    exact .unparsable htext hproblem
  have hdocument : HasDocument files path document := ⟨_, htext, mapError_eq_ok.mp hdocument⟩
  rw [ofDocument.eq_def] at h
  split at h
  · split at h
    · rename_i entries helements
      obtain ⟨before, v, after, f, rfl, hbefore, hread, rfl⟩ := readFunctions_eq_error.mp h
      rw [Nat.zero_add]
      exact .entry ⟨_, hdocument, helements⟩ hbefore hread
    · rename_i f helements
      cases h
      exact .noElements hdocument helements
  · cases h
    exact .notATable _

theorem elements_eq_error {v : Value} {f : Fault} :
    v.elements = .error f ↔
      f = .wrongShape ∧ (∀ items, v ≠ .list items) ∧ (∀ s, v ≠ .text s) ∧ ∀ fs, v ≠ .table fs := by
  cases v <;> simp [Value.elements, eq_comm]

/-- A diagnostic about a bundle is of one kind and names the file. -/
theorem Stops.diagnostic {d : Diagnostic} (h : Stops files path (.diagnostic d)) :
    d.kind = .bundleLoad ∧ ("path", path.text) ∈ d.context := by
  generalize he : Failure.diagnostic d = e at h
  cases h with
  | unreadable hbytes =>
    rw [fileFailure.eq_def] at he
    split at he
    · cases he
      exact ⟨rfl, List.mem_singleton_self _⟩
    · cases he
      exact ⟨rfl, List.mem_singleton_self _⟩
    · cases he
  | undecodable message =>
    cases he
    exact ⟨rfl, List.mem_singleton_self _⟩
  | unparsable htext hread =>
    rw [documentFailure.eq_def] at he
    split at he
    · cases he
    · cases he
    · cases he
      exact ⟨rfl, List.mem_singleton_self _⟩
  | notATable message =>
    cases he
    exact ⟨rfl, List.mem_singleton_self _⟩
  | noElements hdocument helements => cases he
  | entry hentries hbefore hread =>
    rw [entryFailure] at he
    split at he
    · cases he
      exact ⟨rfl, List.mem_cons_self⟩
    · cases he

/-- What is not reported by a diagnostic is listed. -/
theorem Stops.escapes {f : Fault} (h : Stops files path (.fault f)) : Escapes files path f := by
  generalize he : Failure.fault f = e at h
  cases h with
  | unreadable hbytes =>
    rcases FileTree.readBytes_eq_error hbytes with ⟨hnull, rfl⟩ | ⟨-, refusal, rfl⟩
    · cases he
      exact .nullInPath hnull
    · rw [fileFailure.eq_def] at he
      split at he
      · cases he
      · cases he
      · rename_i hrefused
        exact absurd rfl (hrefused refusal)
  | undecodable message => cases he
  | unparsable htext hread =>
    rename_i source problem
    have hconcerns := Json.concerns_of_read_eq_error hread
    cases problem with
    | malformed problem position => cases he
    | tooLong n =>
      cases he
      obtain ⟨⟨bound, hbound, hlong⟩, hdigits⟩ := hconcerns
      cases hbound
      exact .longNumeral htext hread hlong hdigits
    | tooDeep =>
      cases he
      have hdeep : 985 < 1 * Json.openings source := hconcerns
      rw [Nat.one_mul] at hdeep
      exact .deepNesting htext hread hdeep
  | notATable message => cases he
  | noElements hdocument helements =>
    cases he
    obtain ⟨rfl, hlist, htext, htable⟩ := elements_eq_error.mp helements
    rename_i fields
    rcases hget : Assoc.get? "functions" fields with _ | v
    · -- Without the field there are no entries, which is no fault.
      rw [hget] at hlist
      exact absurd rfl (hlist [])
    · rw [hget] at hlist htext htable
      exact .noElements hdocument hget hlist htext htable
  | entry hentries hbefore hread =>
    obtain ⟨rfl, rfl, hv⟩ := entryFailure_eq_fault hread he.symm
    exact .infinite hentries hbefore hread hv

theorem read_of_escapes {f : Fault} (h : Escapes files path f) :
    read files path = .error (.fault f) := by
  cases h with
  | nullInPath hnull =>
    rw [read, FileTree.readBytes, if_pos hnull]
    rfl
  | longNumeral htext hread hlong hdigits =>
    rw [read_of_hasText htext, hread]
    rfl
  | deepNesting htext hread hdeep =>
    rw [read_of_hasText htext, hread]
    rfl
  | noElements hdocument hget hlist htext htable =>
    have helements := elements_eq_error.mpr ⟨rfl, hlist, htext, htable⟩
    rw [read_of_hasDocument hdocument, ofDocument, hget, Option.getD_some, helements]
  | infinite hentries hbefore hread hv =>
    rw [read_of_hasEntries hentries]
    exact readFunctions_eq_error.mpr ⟨_, _, _, _, rfl, hbefore, hread, rfl⟩

theorem load_yields {σ : Type} (s : σ) (files : FileTree) (path : Path) :
    (load files path : Task σ (List Function)).Yields s (read files path) s := by
  refine (Task.yields_note s _).bind ?_
  have hread := Task.yields_ofExcept s (read files path)
  rcases h : read files path with e | functions
  · rw [h] at hread
    exact hread.bind_error
  · rw [h] at hread
    exact hread.bind ((Task.yields_note s _).bind (Task.yields_pure s functions))

/-- Loading a bundle gives the functions of its entries, or a diagnostic that names the file,
or it fails in one of the ways that are listed. -/
theorem load_contained {σ : Type} (s : σ) (files : FileTree) (path : Path) :
    ∃ r, (load files path : Task σ (List Function)).Yields s r s ∧
      (∀ functions, r = .ok functions ↔ Lists files path functions) ∧
      (∀ f, r = .error (.fault f) ↔ Escapes files path f) ∧
      ∀ d, r = .error (.diagnostic d) → d.kind = .bundleLoad ∧ ("path", path.text) ∈ d.context := by
  refine ⟨read files path, load_yields s files path, fun functions => read_eq_ok, fun f => ?_, ?_⟩
  · exact ⟨fun h => (stops_of_read h).escapes, read_of_escapes⟩
  · intro d h
    exact (stops_of_read h).diagnostic

/-- A bundle with null in the place of its functions. -/
def nullBundle : FileTree :=
  ⟨[(⟨.working, ["b.json"]⟩, .file (Utf8.encode "\x7b\"functions\": null\x7d"))]⟩

theorem hasDocument_nullBundle :
    HasDocument nullBundle (Path.ofText "b.json") (.table [("functions", .null)]) := by
  refine ⟨"\x7b\"functions\": null\x7d".toList, ⟨_, _, rfl, Utf8.decode_encode _, by decide⟩, ?_⟩
  simp [Json.read, Json.Limits.standard, Json.value, Json.fields, Json.stringBody, Json.consChar,
    Json.skipSpace, Json.isSpace, Json.words, Assoc.ofPairs, Assoc.put, bind, Except.bind, pure,
    Except.pure]

/-- Such a bundle is refused without a diagnostic. -/
theorem nullBundle_escapes :
    (load nullBundle (Path.ofText "b.json") : Task Unit (List Function)).Yields ()
      (.error (.fault .wrongShape)) () := by
  have hread : read nullBundle (Path.ofText "b.json") = .error (.fault .wrongShape) :=
    read_of_escapes (.noElements hasDocument_nullBundle rfl (by simp) (by simp) (by simp))
  rw [← hread]
  exact load_yields () _ _

end Bundle
end BorrowGraph
