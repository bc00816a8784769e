/-
Reading facts is exact.

A directory of texts can be read exactly if the files that have to be there are there and a
tuple stands in each line that is not blank (`load_eq_ok_iff`).  Then each relation has gained
one row for each of these lines (`load_rows`), and each row stands for the tuple in its line
(`IsRow`): a point is told by its number, which the table resolves to it.

So facts that are written down, in whatever order of lines and by whatever way of quoting and
of ending lines, are read again as the same facts, under another numbering of their points
(`load_written`).
-/
import BorrowGraph.Proofs.LoaderStates

namespace BorrowGraph.FactStore

open PointTable

/-! ### Rows and tuples -/

theorem Cell.IsNumber.unique {t : PointTable} {c c' : Cell} {n : Int} (h : c.IsNumber t n)
    (h' : c'.IsNumber t n) (hcolumn : c.column = c'.column) : c = c' := by
  cases c <;> cases c' <;> simp_all [IsNumber, column]

/-- A row stands for one tuple of its relation only. -/
theorem IsRow.unique {t : PointTable} {cells cells' : List Cell} {row : List Int}
    (h : IsRow t cells row) (h' : IsRow t cells' row)
    (hcolumns : cells.map Cell.column = cells'.map Cell.column) : cells = cells' := by
  induction h generalizing cells' with
  | nil =>
    cases h'
    rfl
  | cons hfirst hrest ih =>
    cases h' with
    | cons hfirst' hrest' =>
      obtain ⟨hcolumn, hcolumns⟩ := List.cons.inj hcolumns
      rw [hfirst.unique hfirst' hcolumn, ih hrest' hcolumns]

/-- Facts hold a tuple of a relation, under a table of points. -/
def Means (f : Facts) (t : PointTable) (relation : Relation) (cells : List Cell) : Prop :=
  cells.map Cell.column = columns relation ∧ ∃ row ∈ f.rows relation, IsRow t cells row

/-- The tuples of a relation, from one tuple for each row. -/
theorem mem_iff_means {f : Facts} {t : PointTable} {relation : Relation} {tuples : List (List Cell)}
    {rows : List (List Int)} (hcolumns : ∀ cells ∈ tuples, cells.map Cell.column = columns relation)
    (hrows : List.Forall₂ (IsRow t) tuples rows) (hmem : ∀ row, row ∈ f.rows relation ↔ row ∈ rows)
    {cells : List Cell} : cells ∈ tuples ↔ Means f t relation cells := by
  constructor
  · intro hcells
    have hrows' : List.Forall₂ (flip (IsRow t)) rows tuples := hrows.flip
    obtain ⟨row, hrow, hcells'⟩ := exists_of_mem_right hrows' hcells
    exact ⟨hcolumns cells hcells, row, (hmem row).mpr hrow, hcells'⟩
  · rintro ⟨hfits, row, hrow, hcells⟩
    obtain ⟨cells', hcells', hrow'⟩ := exists_of_mem_right hrows ((hmem row).mp hrow)
    rw [hcells.unique hrow' (hfits.trans (hcolumns cells' hcells').symm)]
    exact hcells'

/-! ### Lines that can be read -/

theorem mem_written {line : List Char} {lines : List (List Char)} :
    line ∈ written lines ↔ line ∈ lines ∧ ∃ c ∈ line, Text.isBlank c = false := by
  simp [written]

theorem exists_forall₂ {α β : Type} {r : α → β → Prop} {xs : List α} :
    (∃ ys, List.Forall₂ r xs ys) ↔ ∀ x ∈ xs, ∃ y, r x y := by
  induction xs with
  | nil => simp
  | cons x xs ih =>
    rw [List.forall_mem_cons, ← ih]
    constructor
    · rintro ⟨ys, h⟩
      cases h with
      | cons hx hxs => exact ⟨⟨_, hx⟩, _, hxs⟩
    · rintro ⟨⟨y, hx⟩, ys, hxs⟩
      exact ⟨y :: ys, .cons hx hxs⟩

theorem forall₂_comp {α β γ : Type} {r : α → β → Prop} {r' : β → γ → Prop} {xs : List α}
    {ys : List β} {zs : List γ} (h : List.Forall₂ r xs ys) (h' : List.Forall₂ r' ys zs) :
    List.Forall₂ (fun x z => ∃ y, r x y ∧ r' y z) xs zs := by
  induction h generalizing zs with
  | nil =>
    cases h'
    exact .nil
  | cons hfirst _ ih =>
    cases h' with
    | cons hfirst' hrest' => exact .cons ⟨_, hfirst, hfirst'⟩ (ih hrest')

theorem exists_hasTuples_iff {columns : List Column} {text : List Char} :
    (∃ tuples, HasTuples columns text tuples) ↔
      ∀ lines, Text.HasLines text lines → ∀ line ∈ lines, (∃ c ∈ line, Text.isBlank c = false) →
        ∃ cells, IsTuple columns line cells := by
  constructor
  · rintro ⟨tuples, lines, hlines, htuples⟩ lines' hlines' line hline hblank
    obtain rfl := hlines.unique hlines'
    exact exists_forall₂.mp ⟨tuples, htuples⟩ line (mem_written.mpr ⟨hline, hblank⟩)
  · intro h
    have hlines := Text.hasLines_lines text
    have hall : ∀ line ∈ written (Text.lines (Text.unifyLineEnds text)),
        ∃ cells, IsTuple columns line cells := by
      intro line hline
      obtain ⟨hmem, hblank⟩ := mem_written.mp hline
      exact h _ hlines line hmem hblank
    obtain ⟨tuples, htuples⟩ := exists_forall₂.mpr hall
    exact ⟨tuples, _, hlines, htuples⟩

section Load

variable {files : FileTree} {directory : Path} {texts : Relation → Option String}
  (h : HasTexts files directory texts)
include h

theorem exists_records_iff {relation : Relation} :
    (∃ tuples, Records files directory relation tuples) ↔
      (isRequired relation = true → texts relation ≠ none) ∧
      ∀ text lines, texts relation = some text → Text.HasLines text.toList lines →
        ∀ line ∈ lines, (∃ c ∈ line, Text.isBlank c = false) →
          ∃ cells, IsTuple (columns relation) line cells := by
  simp only [records_iff h]
  rcases texts relation with _ | text
  · simp
  · constructor
    · rintro ⟨tuples, ⟨hnone, -⟩ | ⟨text', htext', htuples⟩⟩
      · cases hnone
      · refine ⟨by simp, fun text'' lines htext'' => ?_⟩
        obtain rfl := Option.some_inj.mp (htext'.symm.trans htext'')
        exact exists_hasTuples_iff.mp ⟨tuples, htuples⟩ lines
    · rintro ⟨-, hlines⟩
      obtain ⟨tuples, htuples⟩ := exists_hasTuples_iff.mpr fun lines => hlines text lines rfl
      exact ⟨tuples, .inr ⟨text, rfl, htuples⟩⟩

/-- A directory can be read if it records something for every relation. -/
theorem load_eq_ok_iff {store : FactStore} (hopen : store.points.frozen = false) :
    ((load files directory).start store).1 = .ok () ↔
      ∀ relation, ∃ tuples, Records files directory relation tuples := by
  simp only [← spells_iff_records]
  rcases load_cases h.isDirectory store with
    ⟨s, hspells, -, hyields⟩ | ⟨-, relation, -, s, e, points, -, -, -, -, -, hnone, -, hyields⟩
  · rw [hyields.start.1]
    exact iff_of_true rfl fun relation => ⟨_, hspells relation⟩
  · rw [hyields.start.1]
    refine iff_of_false (by simp) fun hall => ?_
    obtain ⟨tuples, htuples⟩ := hall relation
    exact hnone hopen tuples htuples

/-- What a relation has gained: one row for each line that is not blank, which stands for the
tuple in this line. -/
theorem load_rows {store : FactStore} (hok : ((load files directory).start store).1 = .ok ())
    (relation : Relation) :
    ∃ rows, (texts relation = none → rows = []) ∧
      (∀ text lines, texts relation = some text → Text.HasLines text.toList lines →
        List.Forall₂ (fun line row => ∃ cells, IsTuple (columns relation) line cells ∧
          IsRow ((load files directory).start store).2.state.points cells row)
          (written lines) rows) ∧
      ∀ row, row ∈ ((load files directory).start store).2.state.facts.rows relation ↔
        row ∈ store.facts.rows relation ∨ row ∈ rows := by
  obtain ⟨tuples, rows, hrecords, hrows, hmem⟩ := load_gained hok relation
  rw [records_iff h] at hrecords
  refine ⟨rows, fun htext => ?_, fun text lines htext hlines => ?_, hmem⟩
  · rcases hrecords with ⟨-, -, rfl⟩ | ⟨text, htext', -⟩
    · cases hrows
      rfl
    · cases htext.symm.trans htext'
  · rcases hrecords with ⟨htext', -⟩ | ⟨text', htext', lines', hlines', htuples⟩
    · cases htext'.symm.trans htext
    · obtain rfl : text = text' := Option.some_inj.mp (htext.symm.trans htext')
      obtain rfl := hlines'.unique hlines
      exact forall₂_comp htuples hrows

end Load

/-! ### Facts that are written down -/

/-- The texts of files in which facts are written down, each tuple in at least one line.  Only
a file that would be empty and need not be there may be missing. -/
structure IsWrittenIn (f : Facts) (t : PointTable) (texts : Relation → Option String) : Prop where
  rows : ∀ relation, ∀ row ∈ f.rows relation, ∃ cells, cells.map Cell.column = columns relation ∧
    IsRow t cells row ∧ ∀ cell ∈ cells, cell.IsWritable
  absent : ∀ relation, texts relation = none → isRequired relation = false ∧ f.rows relation = []
  present : ∀ relation text, texts relation = some text → ∃ tuples, IsWritten tuples text.toList ∧
    ∀ cells, cells ∈ tuples ↔ Means f t relation cells

theorem columns_ne_nil (relation : Relation) : columns relation ≠ [] := by
  cases relation <;> decide

/-- Tuples of facts that are written down can be written. -/
theorem IsWrittenIn.isWritable {f : Facts} {t : PointTable} {texts : Relation → Option String}
    (h : IsWrittenIn f t texts) {relation : Relation} {cells : List Cell}
    (hcells : Means f t relation cells) : ∀ cell ∈ cells, cell.IsWritable := by
  obtain ⟨hcolumns, row, hrow, hcells⟩ := hcells
  obtain ⟨cells', hcolumns', hcells', hwritable⟩ := h.rows relation row hrow
  rw [hcells.unique hcells' (hcolumns.trans hcolumns'.symm)]
  exact hwritable

section Written

variable {files : FileTree} {directory : Path} {texts : Relation → Option String}
  (h : HasTexts files directory texts) {f : Facts} {t : PointTable} (hf : IsWrittenIn f t texts)
include h hf

theorem records_of_written (relation : Relation) :
    ∃ tuples, Records files directory relation tuples ∧
      ∀ cells, cells ∈ tuples ↔ Means f t relation cells := by
  simp only [records_iff h]
  rcases htext : texts relation with _ | text
  · obtain ⟨hrequired, hrows⟩ := hf.absent relation htext
    exact ⟨[], .inl ⟨rfl, hrequired, rfl⟩, by simp [Means, hrows]⟩
  · obtain ⟨tuples, hwritten, hmem⟩ := hf.present relation text htext
    refine ⟨tuples, .inr ⟨text, rfl, (hwritten.hasTuples (columns_ne_nil relation) ?_).1⟩, hmem⟩
    intro cells hcells
    have hmeans := (hmem cells).mp hcells
    exact ⟨hmeans.1, hf.isWritable hmeans⟩

/-- Facts that are written down are read again. -/
theorem load_written :
    ((load files directory).start {}).1 = .ok () ∧
      (∀ relation cells, Means ((load files directory).start {}).2.state.facts
        ((load files directory).start {}).2.state.points relation cells ↔
        Means f t relation cells) ∧
      ∀ relation, ∀ row ∈ ((load files directory).start {}).2.state.facts.rows relation,
        ∃ cells, cells.map Cell.column = columns relation ∧
          IsRow ((load files directory).start {}).2.state.points cells row := by
  have hok : ((load files directory).start {}).1 = .ok () := by
    rw [load_eq_ok_iff h rfl]
    intro relation
    obtain ⟨tuples, hrecords, -⟩ := records_of_written h hf relation
    exact ⟨tuples, hrecords⟩
  refine ⟨hok, fun relation cells => ?_, fun relation row hrow => ?_⟩
  · obtain ⟨tuples, hrecords, hmem⟩ := records_of_written h hf relation
    obtain ⟨tuples', rows, hrecords', hrows, hmem'⟩ := load_gained hok relation
    -- A directory records one list of tuples only, so what was read is what was written.
    obtain rfl := hrecords.unique hrecords'
    simp only [rows_empty, List.not_mem_nil, false_or] at hmem'
    rw [← hmem, mem_iff_means (fun cells hcells => ((hmem cells).mp hcells).1) hrows hmem']
  · obtain ⟨tuples, rows, hrecords, hrows, hmem⟩ := load_gained hok relation
    simp only [rows_empty, List.not_mem_nil, false_or] at hmem
    obtain ⟨cells, hcells, hcells'⟩ := exists_of_mem_right hrows ((hmem row).mp hrow)
    exact ⟨cells, hrecords.map_column hcells, hcells'⟩

end Written

/-! ### Exactness -/

/-- **Reading facts is exact.**  A directory of texts is read into any store whose points are
not frozen exactly if the three relations that have to be there are there and a tuple of the
relation stands in each line that is not blank.  Then each relation has what it had before and
one row for each such line, which stands for the tuple in this line.  Facts whose numbers are
not negative and have at most 4300 digits are read again from whatever they are written down
in. -/
theorem load_exact {files : FileTree} {directory : Path} {texts : Relation → Option String}
    (h : HasTexts files directory texts) :
    (∀ store : FactStore, store.points.frozen = false →
      (((load files directory).start store).1 = .ok () ↔
        (∀ relation ∈ [Relation.borrowRegion, .outlives, .regionLiveAt], texts relation ≠ none) ∧
        ∀ relation text lines, texts relation = some text → Text.HasLines text.toList lines →
          ∀ line ∈ lines, (∃ c ∈ line, Text.isBlank c = false) →
            ∃ cells, IsTuple (columns relation) line cells) ∧
      (((load files directory).start store).1 = .ok () → ∀ relation,
        ∃ rows, (texts relation = none → rows = []) ∧
          (∀ text lines, texts relation = some text → Text.HasLines text.toList lines →
            List.Forall₂ (fun line row => ∃ cells, IsTuple (columns relation) line cells ∧
              IsRow ((load files directory).start store).2.state.points cells row)
              (written lines) rows) ∧
          ∀ row, row ∈ ((load files directory).start store).2.state.facts.rows relation ↔
            row ∈ store.facts.rows relation ∨ row ∈ rows)) ∧
    ∀ (f : Facts) (t : PointTable), IsWrittenIn f t texts →
      ((load files directory).start {}).1 = .ok () ∧
        (∀ relation cells, Means ((load files directory).start {}).2.state.facts
          ((load files directory).start {}).2.state.points relation cells ↔
          Means f t relation cells) ∧
        ∀ relation, ∀ row ∈ ((load files directory).start {}).2.state.facts.rows relation,
          ∃ cells, cells.map Cell.column = columns relation ∧
            IsRow ((load files directory).start {}).2.state.points cells row := by
  refine ⟨fun store hopen => ⟨?_, load_rows h⟩, fun f t hf => load_written h hf⟩
  have hrequired : ∀ relation, isRequired relation = true ↔
      relation ∈ [Relation.borrowRegion, .outlives, .regionLiveAt] := by
    intro relation
    cases relation <;> decide
  rw [load_eq_ok_iff h hopen]
  simp only [exists_records_iff h, hrequired]
  constructor
  · intro hall
    exact ⟨fun relation => (hall relation).1, fun relation => (hall relation).2⟩
  · rintro ⟨hthere, hlines⟩ relation
    exact ⟨hthere relation, hlines relation⟩

/-- Texts with all the ends of lines, with and without quotes, and with a file that is missing. -/
def mixedTexts : Relation → Option String
  | .borrowRegion => some "\"'_#2r\"\tbw0\t\"Mid(bb0[0])\"\r\n"
  | .outlives =>
    some "'_#1r\t'_#2r\tMid(bb0[1])\r\"'_#1r\"\t'_#3r\tMid(bb0[0])\n'_#1r\t'_#2r\tMid(bb0[1])"
  | .regionLiveAt => some ""
  | _ => none

def mixedFiles : FileTree :=
  ⟨(⟨.working, ["facts"]⟩, .directory) :: Relation.all.filterMap fun relation =>
    (mixedTexts relation).map fun text =>
      (⟨.working, ["facts", fileOf relation]⟩, .file (Utf8.encode text))⟩

def mixedPoints : PointTable :=
  (PointTable.ofPoints [⟨⟨7, 0⟩, .start⟩, ⟨⟨0, 0⟩, .mid⟩, ⟨⟨0, 1⟩, .mid⟩]).freeze

def mixedFacts : Facts :=
  { borrowRegion := [(2, 0, 1)], outlives := [(1, 3, 1), (1, 2, 2)] }

def mixedTuples : Relation → List (List Cell)
  | .borrowRegion => [[.region 2, .loan 0, .point ⟨⟨0, 0⟩, .mid⟩]]
  | .outlives => [[.region 1, .region 3, .point ⟨⟨0, 0⟩, .mid⟩],
      [.region 1, .region 2, .point ⟨⟨0, 1⟩, .mid⟩]]
  | _ => []

theorem hasTexts_mixedFiles : HasTexts mixedFiles (.ofText "facts") mixedTexts where
  isDirectory := by decide +kernel
  absent := by
    intro relation h
    cases relation <;> cases h <;> decide +kernel
  present := by
    intro relation text h
    cases relation <;> cases h <;> decide +kernel

theorem isRow_mixedTuples (relation : Relation) :
    List.Forall₂ (IsRow mixedPoints) (mixedTuples relation) (mixedFacts.rows relation) := by
  cases relation with
  | borrowRegion => exact .cons (.cons rfl (.cons rfl (.cons rfl .nil))) .nil
  | outlives =>
    exact .cons (.cons rfl (.cons rfl (.cons rfl .nil)))
      (.cons (.cons rfl (.cons rfl (.cons rfl .nil))) .nil)
  | _ => exact .nil

theorem fits_mixedTuples (relation : Relation) : ∀ cells ∈ mixedTuples relation,
    cells.map Cell.column = columns relation ∧ ∀ cell ∈ cells, cell.IsWritable := by
  cases relation <;> decide +kernel

theorem isWritten_mixedTexts :
    IsWritten (mixedTuples .borrowRegion)
      "\"'_#2r\"\tbw0\t\"Mid(bb0[0])\"\r\n".toList ∧
    IsWritten ((mixedTuples .outlives).reverse ++ (mixedTuples .outlives).drop 1)
      (String.toList
        "'_#1r\t'_#2r\tMid(bb0[1])\r\"'_#1r\"\t'_#3r\tMid(bb0[0])\n'_#1r\t'_#2r\tMid(bb0[1])") := by
  have hborrow : IsWrittenLine [.region 2, .loan 0, .point ⟨⟨0, 0⟩, .mid⟩]
      "\"'_#2r\"\tbw0\t\"Mid(bb0[0])\"".toList :=
    ⟨[_, _, _], .cons (.inr rfl) (.cons (.inl rfl) (.cons (.inr rfl) .nil)), rfl⟩
  have hplain : IsWrittenLine [.region 1, .region 2, .point ⟨⟨0, 1⟩, .mid⟩]
      "'_#1r\t'_#2r\tMid(bb0[1])".toList :=
    ⟨[_, _, _], .cons (.inl rfl) (.cons (.inl rfl) (.cons (.inl rfl) .nil)), rfl⟩
  have hquoted : IsWrittenLine [.region 1, .region 3, .point ⟨⟨0, 0⟩, .mid⟩]
      "\"'_#1r\"\t'_#3r\tMid(bb0[0])".toList :=
    ⟨[_, _, _], .cons (.inr rfl) (.cons (.inl rfl) (.cons (.inl rfl) .nil)), rfl⟩
  have hpair : ['\r', '\n'] ∈ [['\n'], ['\r', '\n'], ['\r']] := by decide
  have hreturn : ['\r'] ∈ [['\n'], ['\r', '\n'], ['\r']] := by decide
  have hfeed : ['\n'] ∈ [['\n'], ['\r', '\n'], ['\r']] := by decide
  exact ⟨.cons hborrow hpair .nil, .cons hplain hreturn (.cons hquoted hfeed (.last hplain))⟩

theorem isWrittenIn_mixedTexts : IsWrittenIn mixedFacts mixedPoints mixedTexts where
  rows := by
    intro relation row hrow
    obtain ⟨cells, hcells, hrow⟩ := exists_of_mem_right (isRow_mixedTuples relation) hrow
    obtain ⟨hfits, hwritable⟩ := fits_mixedTuples relation cells hcells
    exact ⟨cells, hfits, hrow, hwritable⟩
  absent := by
    intro relation h
    cases relation <;> cases h <;> decide
  present := by
    intro relation text h
    have hmem : ∀ cells, cells ∈ mixedTuples relation ↔
        Means mixedFacts mixedPoints relation cells := fun cells =>
      mem_iff_means (fun cells hcells => (fits_mixedTuples relation cells hcells).1)
        (isRow_mixedTuples relation) fun _ => Iff.rfl
    cases relation with
    | borrowRegion =>
      obtain rfl := Option.some_inj.mp h
      exact ⟨_, isWritten_mixedTexts.1, hmem⟩
    | outlives =>
      obtain rfl := Option.some_inj.mp h
      refine ⟨_, isWritten_mixedTexts.2, fun cells => ?_⟩
      rw [← hmem]
      simp only [List.mem_append, List.mem_reverse, or_iff_left_iff_imp]
      exact List.mem_of_mem_drop
    | regionLiveAt =>
      obtain rfl := Option.some_inj.mp h
      exact ⟨[], .nil, hmem⟩
    | _ => cases h

theorem mixedFiles_load_exact :
    HasTexts mixedFiles (.ofText "facts") mixedTexts ∧
      IsWrittenIn mixedFacts mixedPoints mixedTexts ∧
      ((load mixedFiles (.ofText "facts")).start {}).1 = .ok () ∧
      ∀ relation cells, Means ((load mixedFiles (.ofText "facts")).start {}).2.state.facts
        ((load mixedFiles (.ofText "facts")).start {}).2.state.points relation cells ↔
        cells ∈ mixedTuples relation := by
  obtain ⟨hok, hmeans, -⟩ :=
    (load_exact hasTexts_mixedFiles).2 mixedFacts mixedPoints isWrittenIn_mixedTexts
  refine ⟨hasTexts_mixedFiles, isWrittenIn_mixedTexts, hok, fun relation cells => ?_⟩
  rw [hmeans, mem_iff_means (fun cells hcells => (fits_mixedTuples relation cells hcells).1)
    (isRow_mixedTuples relation) fun _ => Iff.rfl]

end BorrowGraph.FactStore
