/-
Fact files, by what is written in them.

A tuple stands in a line: its cells are spelled in fields between tabs, each with or without
quotes and with any blanks around it (`IsTuple`).  A file has one tuple in each line that is
not blank (`HasTuples`), and what the file of a relation spells are exactly these
(`spells_iff_records`).  A row of numbers stands for a tuple under a table of points (`IsRow`).

Tuples can be written down in many ways.  `IsWritten` allows for the text of each cell, with or
without quotes, and for the usual ends of lines, and whatever is written in such a way is found
again (`IsWritten.hasTuples`).
-/
import BorrowGraph.Proofs.AtomSpelling
import BorrowGraph.Proofs.FactSpelling
import BorrowGraph.Proofs.TextShape
import BorrowGraph.Proofs.Utf8Text

namespace BorrowGraph.FactStore

open PointTable

/-! ### Fields and tuples -/

/-- The spellings of a cell. -/
def Cell.IsSpelling : Cell → List Char → Prop
  | .region r, cs => r.IsSpelling cs
  | .loan l, cs => l.IsSpelling cs
  | .point p, cs => p.IsSpelling cs

/-- A cell in a field: what is left without the blanks around it and without one pair of quotes
spells the cell. -/
def IsField (field : List Char) (cell : Cell) : Prop :=
  ∃ body inner, Text.IsTrimmed field body ∧ Text.IsUnquoted body inner ∧ cell.IsSpelling inner

/-- A tuple in a line: its cells stand in the columns, in fields between tabs. -/
def IsTuple (columns : List Column) (line : List Char) (cells : List Cell) : Prop :=
  cells.map Cell.column = columns ∧ ∃ fields, Text.HasFields line fields ∧
    List.Forall₂ IsField fields cells

theorem readCell_eq_some_iff {column : Column} {cs : List Char} (h : '\n' ∉ cs) {cell : Cell} :
    readCell column (String.ofList cs) = some cell ↔ cell.column = column ∧ cell.IsSpelling cs := by
  cases column with
  | region =>
    simp only [readCell, Option.map_eq_some_iff, toOption_eq_some, Region.read_eq_ok_iff h]
    cases cell <;> simp [Cell.column, Cell.IsSpelling]
  | loan =>
    simp only [readCell, Option.map_eq_some_iff, toOption_eq_some, Loan.read_eq_ok_iff h]
    cases cell <;> simp [Cell.column, Cell.IsSpelling]
  | point =>
    simp only [readCell, Option.map_eq_some_iff, toOption_eq_some, Point.read_eq_ok_iff h]
    cases cell <;> simp [Cell.column, Cell.IsSpelling]

theorem mem_of_mem_unquote {field : List Char} {c : Char} (h : c ∈ unquote field) : c ∈ field := by
  obtain ⟨body, htrimmed, hinner⟩ := Text.unquote_eq_iff.mp (Eq.refl (unquote field))
  have hbody : c ∈ body := by
    generalize unquote field = inner at h hinner
    cases hinner with
    | quoted => simp [h]
    | plain => exact h
  obtain ⟨before, after, rfl, -, -⟩ := htrimmed.around
  simp [hbody]

theorem readCell_unquote {column : Column} {field : List Char} (h : '\n' ∉ field) {cell : Cell} :
    readCell column (String.ofList (unquote field)) = some cell ↔
      cell.column = column ∧ IsField field cell := by
  rw [readCell_eq_some_iff fun hmem => h (mem_of_mem_unquote hmem), IsField]
  refine and_congr_right fun _ => ?_
  constructor
  · intro hspelling
    obtain ⟨body, htrimmed, hinner⟩ := Text.unquote_eq_iff.mp (Eq.refl (unquote field))
    exact ⟨body, _, htrimmed, hinner, hspelling⟩
  · rintro ⟨body, inner, htrimmed, hinner, hspelling⟩
    rw [Text.unquote_eq_iff.mpr ⟨body, htrimmed, hinner⟩]
    exact hspelling

theorem readCells_unquote {columns : List Column} {fields : List (List Char)}
    (h : ∀ field ∈ fields, '\n' ∉ field) (hlength : fields.length = columns.length)
    {cells : List Cell} :
    readCells columns (fields.map fun field => String.ofList (unquote field)) = some cells ↔
      cells.map Cell.column = columns ∧ List.Forall₂ IsField fields cells := by
  induction columns generalizing fields cells with
  | nil =>
    rw [List.length_eq_zero_iff.mp hlength]
    simp [readCells, eq_comm]
  | cons column columns ih =>
    obtain ⟨field, fields, rfl⟩ := List.exists_cons_of_length_eq_add_one hlength
    rw [List.forall_mem_cons] at h
    rw [List.map_cons, readCells_cons]
    simp only [readCell_unquote h.1, ih h.2 (Nat.succ.inj hlength)]
    constructor
    · rintro ⟨cell, cells', ⟨hcolumn, hfield⟩, ⟨hcolumns, hfields⟩, rfl⟩
      exact ⟨by rw [List.map_cons, hcolumn, hcolumns], .cons hfield hfields⟩
    · rintro ⟨hcolumns, hfields⟩
      cases hfields with
      | cons hfield hfields =>
        obtain ⟨hcolumn, hcolumns⟩ := List.cons.inj hcolumns
        exact ⟨_, _, ⟨hcolumn, hfield⟩, ⟨hcolumns, hfields⟩, rfl⟩

/-- A line without a line end spells the tuple that stands in it. -/
theorem tuple?_eq_some_iff {columns : List Column} {line : List Char} (h : '\n' ∉ line)
    {cells : List Cell} : tuple? columns line = some cells ↔ IsTuple columns line cells := by
  have hfields := Text.hasFields_iff.mpr (Eq.refl (Text.splitAtChar '\t' line))
  have hfree : ∀ field ∈ Text.splitAtChar '\t' line, '\n' ∉ field := by
    intro field hfield hmem
    exact h (hfields.join ▸ Text.mem_intercalate_of_mem hfield hmem)
  rw [tuple?]
  simp only [List.length_map]
  constructor
  · intro htuple
    split at htuple
    · cases htuple
    · rename_i hlength
      obtain ⟨hcolumns, hcells⟩ := (readCells_unquote hfree (not_not.mp hlength)).mp htuple
      exact ⟨hcolumns, _, hfields, hcells⟩
  · rintro ⟨hcolumns, fields, hfields', hcells⟩
    obtain rfl := Text.hasFields_iff.mp hfields'
    have hlength : (Text.splitAtChar '\t' line).length = columns.length := by
      rw [hcells.length_eq, ← hcolumns, List.length_map]
    rw [if_neg (not_not.mpr hlength), readCells_unquote hfree hlength]
    exact ⟨hcolumns, hcells⟩

/-! ### Texts -/

/-- The lines in which something else than blanks stands. -/
def written (lines : List (List Char)) : List (List Char) :=
  lines.filter fun line => !line.all Text.isBlank

/-- The tuples of a text: one in each line that is not blank, in order. -/
def HasTuples (columns : List Column) (text : List Char) (tuples : List (List Cell)) : Prop :=
  ∃ lines, Text.HasLines text lines ∧ List.Forall₂ (IsTuple columns) (written lines) tuples

theorem readings_eq (columns : List Column) (lines : List (List Char)) :
    readings columns lines = (written lines).map (tuple? columns) := by
  rw [readings, written]
  congr 2
  funext line
  rw [Bool.not_inj_iff, Bool.eq_iff_iff, Text.trim_isEmpty_iff, List.all_eq_true]

theorem map_eq_map_some_iff {α β : Type} {f : α → Option β} {r : α → β → Prop} {xs : List α}
    {ys : List β} (h : ∀ x ∈ xs, ∀ y, f x = some y ↔ r x y) :
    xs.map f = ys.map some ↔ List.Forall₂ r xs ys := by
  induction xs generalizing ys with
  | nil => cases ys <;> simp
  | cons x xs ih =>
    rw [List.forall_mem_cons] at h
    rcases ys with _ | ⟨y, ys⟩
    · simp
    · rw [List.map_cons, List.map_cons, List.cons.injEq, h.1, ih h.2, List.forall₂_cons]

/-- What is read from a text are its tuples. -/
theorem readings_iff {columns : List Column} {text : List Char} {tuples : List (List Cell)} :
    readings columns (Text.lines (Text.unifyLineEnds text)) = tuples.map some ↔
      HasTuples columns text tuples := by
  have hlines := Text.hasLines_lines text
  have hfree : ∀ line ∈ written (Text.lines (Text.unifyLineEnds text)), '\n' ∉ line := by
    intro line hline hmem
    have hend := hlines.not_isLineEnd (List.mem_of_mem_filter hline) hmem
    exact absurd hend (by decide)
  rw [readings_eq, map_eq_map_some_iff fun line hline cells =>
    tuple?_eq_some_iff (hfree line hline)]
  constructor
  · intro h
    exact ⟨_, hlines, h⟩
  · rintro ⟨lines, hlines', h⟩
    rw [Text.lines_of_hasLines hlines']
    exact h

/-! ### Files -/

/-- The texts of the files in a directory, for the relations that have one. -/
structure HasTexts (files : FileTree) (directory : Path) (texts : Relation → Option String) :
    Prop where
  isDirectory : files.isDirectory directory = .ok true
  absent : ∀ relation, texts relation = none →
    files.isThere (directory.child (fileOf relation)) = .ok false
  present : ∀ relation text, texts relation = some text →
    files.readBytes (directory.child (fileOf relation)) = .ok (Utf8.encode text)

theorem isThere_of_readBytes {files : FileTree} {path : Path} {bytes : List UInt8}
    (h : files.readBytes path = .ok bytes) : files.isThere path = .ok true := by
  rw [FileTree.readBytes] at h
  rw [FileTree.isThere, FileTree.ask]
  split at h
  · cases h
  · rename_i hnull
    rw [if_neg hnull]
    rcases hstat : files.stat path with c | node
    · rw [hstat] at h
      cases h
    · rfl

/-- The tuples that a directory records for a relation: those in the text of its file, or none
if the file is missing and need not be there. -/
def Records (files : FileTree) (directory : Path) (relation : Relation)
    (tuples : List (List Cell)) : Prop :=
  (files.isThere (directory.child (fileOf relation)) = .ok false ∧ isRequired relation = false ∧
    tuples = []) ∨
  ∃ bytes text, files.readBytes (directory.child (fileOf relation)) = .ok bytes ∧
    Utf8.decode bytes = .ok text ∧ HasTuples (columns relation) text tuples

theorem fileLines_eq_ok_iff {files : FileTree} {path : Path} {lines : List (List Char)} :
    fileLines files path = .ok lines ↔ ∃ bytes text, files.readBytes path = .ok bytes ∧
      Utf8.decode bytes = .ok text ∧ Text.lines (Text.unifyLineEnds text) = lines := by
  rw [fileLines]
  rcases files.readBytes path with f | bytes
  · cases f <;> simp
  · rcases hdecode : Utf8.decode bytes with e | text <;> simp [hdecode]

/-- What the file of a relation spells are the tuples that are recorded. -/
theorem spells_iff_records {files : FileTree} {directory : Path} {relation : Relation}
    {tuples : List (List Cell)} :
    Spells files directory relation tuples ↔ Records files directory relation tuples := by
  have hunread : files.isThere (directory.child (fileOf relation)) ≠ .ok true →
      ∀ bytes, files.readBytes (directory.child (fileOf relation)) ≠ .ok bytes :=
    fun hmissing bytes hbytes => hmissing (isThere_of_readBytes hbytes)
  rw [Spells, spelledBy, Records]
  rcases hstat : files.isThere (directory.child (fileOf relation)) with f | _ | _
  · simp [hunread (by simp [hstat])]
  · rcases isRequired relation with _ | _ <;> simp [hunread (by simp [hstat])]
  · rw [Option.map_eq_some_iff]
    simp only [toOption_eq_some, fileLines_eq_ok_iff, Except.ok.injEq, reduceCtorEq, false_and,
      false_or]
    constructor
    · rintro ⟨_, ⟨bytes, text, hbytes, htext, rfl⟩, htuples⟩
      exact ⟨bytes, text, hbytes, htext, readings_iff.mp htuples⟩
    · rintro ⟨bytes, text, hbytes, htext, htuples⟩
      exact ⟨_, ⟨bytes, text, hbytes, htext, rfl⟩, readings_iff.mpr htuples⟩

section Records

variable {files : FileTree} {directory : Path} {relation : Relation} {tuples : List (List Cell)}
  (h : Records files directory relation tuples)
include h

theorem Records.unique {tuples' : List (List Cell)}
    (h' : Records files directory relation tuples') : tuples = tuples' := by
  have hspells := spells_iff_records.mpr h
  have hspells' := spells_iff_records.mpr h'
  exact hspells.tuplesIn_eq.symm.trans hspells'.tuplesIn_eq

theorem Records.map_column {cells : List Cell} (hcells : cells ∈ tuples) :
    cells.map Cell.column = columns relation :=
  (spells_iff_records.mpr h).map_column hcells

end Records

section Texts

variable {files : FileTree} {directory : Path} {texts : Relation → Option String}
  (h : HasTexts files directory texts)
include h

theorem records_iff {relation : Relation} {tuples : List (List Cell)} :
    Records files directory relation tuples ↔
      (texts relation = none ∧ isRequired relation = false ∧ tuples = []) ∨
      ∃ text, texts relation = some text ∧ HasTuples (columns relation) text.toList tuples := by
  rw [Records]
  rcases htext : texts relation with _ | text
  · have hmissing := h.absent relation htext
    constructor
    · rintro (⟨-, hrequired, rfl⟩ | ⟨bytes, text, hbytes, -⟩)
      · exact .inl ⟨rfl, hrequired, rfl⟩
      · cases hmissing.symm.trans (isThere_of_readBytes hbytes)
    · rintro (⟨-, hrequired, rfl⟩ | ⟨text, htext', -⟩)
      · exact .inl ⟨hmissing, hrequired, rfl⟩
      · cases htext'
  · have hbytes := h.present relation text htext
    rw [isThere_of_readBytes hbytes, hbytes]
    constructor
    · rintro (⟨hmissing, -⟩ | ⟨bytes, text', hbytes', hdecode, htuples⟩)
      · cases hmissing
      · obtain rfl := Except.ok.inj hbytes'
        obtain rfl := Except.ok.inj ((Utf8.decode_encode text).symm.trans hdecode)
        exact .inr ⟨text, rfl, htuples⟩
    · rintro (⟨htext', -⟩ | ⟨text', htext', htuples⟩)
      · cases htext'
      · obtain rfl := Option.some_inj.mp htext'
        exact .inr ⟨_, _, rfl, Utf8.decode_encode text, htuples⟩

end Texts

/-! ### Rows -/

/-- The numbers that stand for a cell under a table of points. -/
def Cell.IsNumber (t : PointTable) : Cell → Int → Prop
  | .region r, n => n = r
  | .loan l, n => n = l
  | .point p, n => t.resolve n = .ok p

/-- A row of numbers stands for a tuple. -/
def IsRow (t : PointTable) (cells : List Cell) (row : List Int) : Prop :=
  List.Forall₂ (Cell.IsNumber t) cells row

theorem isRow_rowOf {t : PointTable} {cells : List Cell}
    (h : ∀ p ∈ pointsOf cells, p ∈ t.points) : IsRow t cells (rowOf t cells) := by
  rw [IsRow, rowOf, List.forall₂_map_right_iff, List.forall₂_same]
  intro cell hcell
  cases cell with
  | region r => rfl
  | loan l => rfl
  | point p => exact resolve_number (h p (mem_pointsOf.mpr hcell))

/-! ### Writing -/

/-- The text of a cell. -/
def Cell.text : Cell → String
  | .region r => r.text
  | .loan l => l.text
  | .point p => p.text

/-- A number that is not negative and has at most 4300 digits. -/
def IsWritable (n : Int) : Prop :=
  0 ≤ n ∧ Decimal.fits n = true

instance (n : Int) : Decidable (IsWritable n) :=
  inferInstanceAs (Decidable (_ ∧ _))

/-- A cell all of whose numbers can be written down. -/
def Cell.IsWritable : Cell → Prop
  | .region r => FactStore.IsWritable r
  | .loan l => FactStore.IsWritable l
  | .point p => FactStore.IsWritable p.location.block ∧ FactStore.IsWritable p.location.index

instance : (cell : Cell) → Decidable cell.IsWritable
  | .region r => inferInstanceAs (Decidable (FactStore.IsWritable r))
  | .loan l => inferInstanceAs (Decidable (FactStore.IsWritable l))
  | .point p => inferInstanceAs
      (Decidable (FactStore.IsWritable p.location.block ∧ FactStore.IsWritable p.location.index))

/-- The text of a cell, with or without quotes. -/
def IsWrittenField (cell : Cell) (field : List Char) : Prop :=
  field = cell.text.toList ∨ field = '"' :: (cell.text.toList ++ ['"'])

/-- The texts of the cells of a tuple, with tabs between them. -/
def IsWrittenLine (cells : List Cell) (line : List Char) : Prop :=
  ∃ fields, List.Forall₂ IsWrittenField cells fields ∧ line = ['\t'].intercalate fields

/-- Tuples in lines, each with one of the usual ends; only the last line need not have one. -/
inductive IsWritten : List (List Cell) → List Char → Prop where
  | nil : IsWritten [] []
  | last {cells : List Cell} {line : List Char} (hline : IsWrittenLine cells line) :
      IsWritten [cells] line
  | cons {cells : List Cell} {line ending rest : List Char} {tuples : List (List Cell)}
      (hline : IsWrittenLine cells line) (hending : ending ∈ [['\n'], ['\r', '\n'], ['\r']])
      (hrest : IsWritten tuples rest) : IsWritten (cells :: tuples) (line ++ ending ++ rest)

/-- A character that is neither blank nor a quote. -/
def IsPlain (c : Char) : Prop :=
  Text.isBlank c = false ∧ c ≠ '"'

instance (c : Char) : Decidable (IsPlain c) :=
  inferInstanceAs (Decidable (_ ∧ _))

theorem isPlain_of_all {cs : List Char} (h : (cs.all fun c => decide (IsPlain c)) = true) :
    ∀ c ∈ cs, IsPlain c := by
  simpa using h

theorem isPlain_of_isDigit {c : Char} (h : c.isDigit = true) : IsPlain c := by
  have hbounds := Spelling.toNat_of_isDigit h
  refine ⟨?_, ?_⟩
  · simp only [Text.isBlank, Bool.or_eq_false_iff, Bool.and_eq_false_iff, decide_eq_false_iff_not,
      beq_eq_false_iff_ne]
    omega
  · rintro rfl
    exact absurd hbounds (by decide)

theorem isPlain_number {n : Int} (h : IsWritable n) : ∀ c ∈ (Decimal.text n).toList, IsPlain c := by
  intro c hc
  obtain ⟨k, rfl⟩ := Int.eq_ofNat_of_zero_le h.1
  rw [Spelling.toList_text] at hc
  exact isPlain_of_isDigit (Nat.isDigit_of_mem_toDigits (by decide) (by decide) hc)

namespace Cell

variable {cell : Cell} (h : cell.IsWritable)
include h

theorem isPlain_text : ∀ c ∈ cell.text.toList, IsPlain c := by
  cases cell with
  | region r =>
    have hnumber := isPlain_number h
    simp only [text, Region.text, String.toList_append, List.forall_mem_append]
    exact ⟨⟨isPlain_of_all (by decide), hnumber⟩, isPlain_of_all (by decide)⟩
  | loan l =>
    have hnumber := isPlain_number h
    simp only [text, Loan.text, String.toList_append, List.forall_mem_append]
    exact ⟨isPlain_of_all (by decide), hnumber⟩
  | point p =>
    have hblock := isPlain_number h.1
    have hindex := isPlain_number h.2
    have hphase : ∀ c ∈ p.phase.text.toList, IsPlain c := by
      cases p.phase <;> exact isPlain_of_all (by decide)
    have hlocation : ∀ c ∈ p.location.text.toList, IsPlain c := by
      simp only [Location.text, String.toList_append, List.forall_mem_append]
      exact ⟨⟨⟨⟨isPlain_of_all (by decide), hblock⟩, isPlain_of_all (by decide)⟩, hindex⟩,
        isPlain_of_all (by decide)⟩
    simp only [text, Point.text, String.toList_append, List.forall_mem_append]
    exact ⟨⟨⟨hphase, isPlain_of_all (by decide)⟩, hlocation⟩, isPlain_of_all (by decide)⟩

theorem isSpelling_text : cell.IsSpelling cell.text.toList := by
  cases cell with
  | region r => exact Region.isSpelling_text h.1 h.2
  | loan l => exact Loan.isSpelling_text h.1 h.2
  | point p => exact Point.isSpelling_text h.1.1 h.1.2 h.2.1 h.2.2

omit h in
theorem text_ne_nil : cell.text.toList ≠ [] := by
  cases cell with
  | region r => simp [text, Region.text]
  | loan l => simp [text, Loan.text]
  | point p => simp [text, Point.text]

/-- What is written in a field is the cell, and nothing in it is blank. -/
theorem isField_of_written {field : List Char} (hfield : IsWrittenField cell field) :
    IsField field cell ∧ field ≠ [] ∧ ∀ c ∈ field, Text.isBlank c = false := by
  have hplain := isPlain_text h
  rcases hfield with rfl | rfl
  · have hblank : ∀ c ∈ cell.text.toList, Text.isBlank c = false := fun c hc => (hplain c hc).1
    refine ⟨⟨_, _, Text.isTrimmed_self hblank, .plain fun inner hinner => ?_, isSpelling_text h⟩,
      text_ne_nil, hblank⟩
    -- The text of a cell has no quotes.
    exact (hplain '"' (hinner ▸ List.mem_cons_self)).2 rfl
  · have hblank : ∀ c ∈ '"' :: (cell.text.toList ++ ['"']), Text.isBlank c = false := by
      refine List.forall_mem_cons.mpr ⟨by decide, ?_⟩
      simp only [List.forall_mem_append, List.forall_mem_singleton]
      exact ⟨fun c hc => (hplain c hc).1, by decide⟩
    exact ⟨⟨_, _, Text.isTrimmed_self hblank, .quoted _, isSpelling_text h⟩, by simp, hblank⟩

end Cell

theorem forall₂_isField_of_written {cells : List Cell} {fields : List (List Char)}
    (h : List.Forall₂ IsWrittenField cells fields) (hcells : ∀ cell ∈ cells, cell.IsWritable) :
    List.Forall₂ IsField fields cells ∧
      ∀ field ∈ fields, field ≠ [] ∧ ∀ c ∈ field, Text.isBlank c = false := by
  induction h with
  | nil => exact ⟨.nil, by simp⟩
  | cons hfield hfields ih =>
    rw [List.forall_mem_cons] at hcells
    obtain ⟨hfirst, hfirst'⟩ := Cell.isField_of_written hcells.1 hfield
    obtain ⟨hrest, hrest'⟩ := ih hcells.2
    exact ⟨.cons hfirst hrest, List.forall_mem_cons.mpr ⟨hfirst', hrest'⟩⟩

/-- The tuple that is written in a line stands in it, and the line begins with something that
is not blank. -/
theorem isTuple_of_written {columns : List Column} (hcolumns : columns ≠ []) {cells : List Cell}
    (hfits : cells.map Cell.column = columns) (hcells : ∀ cell ∈ cells, cell.IsWritable)
    {line : List Char} (hline : IsWrittenLine cells line) :
    IsTuple columns line cells ∧ (∀ c ∈ line, Text.isLineEnd c = false) ∧
      ∃ c rest, line = c :: rest ∧ Text.isBlank c = false := by
  obtain ⟨fields, hwritten, rfl⟩ := hline
  obtain ⟨hfields, hblank⟩ := forall₂_isField_of_written hwritten hcells
  have hne : fields ≠ [] := by
    rintro rfl
    cases hfields
    exact hcolumns hfits.symm
  refine ⟨⟨hfits, fields, ⟨hne, ?_, rfl⟩, hfields⟩, ?_, ?_⟩
  · intro field hfield htab
    exact absurd ((hblank field hfield).2 _ htab) (by decide)
  · intro c hc
    rcases Text.of_mem_intercalate hc with rfl | ⟨field, hfield, hc⟩
    · decide
    · have hc' := (hblank field hfield).2 c hc
      exact Bool.eq_false_iff.mpr fun hend =>
        absurd (Text.isBlank_of_isLineEnd hend) (by simp [hc'])
  · obtain ⟨field, fields', rfl⟩ := List.exists_cons_of_ne_nil hne
    obtain ⟨hfield, hfield'⟩ := hblank field List.mem_cons_self
    obtain ⟨c, field', rfl⟩ := List.exists_cons_of_ne_nil hfield
    exact ⟨c, _, List.intercalate_cons_cons_left, hfield' c List.mem_cons_self⟩

theorem written_cons {line : List Char} {lines : List (List Char)}
    (h : ∃ c rest, line = c :: rest ∧ Text.isBlank c = false) :
    written (line :: lines) = line :: written lines := by
  obtain ⟨c, rest, rfl, hc⟩ := h
  rw [written, List.filter_cons_of_pos (by simp [hc])]
  rfl

theorem head_append_of_not_blank {line : List Char}
    (h : ∃ c rest, line = c :: rest ∧ Text.isBlank c = false) (more : List Char) :
    (line ++ more).head? ≠ some '\n' := by
  obtain ⟨c, rest, rfl, hc⟩ := h
  intro hhead
  obtain rfl : c = '\n' := Option.some_inj.mp hhead
  exact absurd hc (by decide)

theorem isBreak_of_mem {ending : List Char} (h : ending ∈ [['\n'], ['\r', '\n'], ['\r']]) :
    Text.IsBreak ending := by
  simp only [List.mem_cons, List.not_mem_nil, or_false] at h
  rcases h with rfl | rfl | rfl
  · exact .single (by decide)
  · exact .pair
  · exact .single (by decide)

/-- Whatever way tuples are written in, they are found again. -/
theorem IsWritten.hasTuples {columns : List Column} (hcolumns : columns ≠ [])
    {tuples : List (List Cell)} {text : List Char} (h : IsWritten tuples text)
    (htuples : ∀ cells ∈ tuples, cells.map Cell.column = columns ∧
      ∀ cell ∈ cells, cell.IsWritable) :
    HasTuples columns text tuples ∧ text.head? ≠ some '\n' := by
  induction h with
  | nil => exact ⟨⟨[], .nil, .nil⟩, by simp⟩
  | @last cells line hline =>
    obtain ⟨hfits, hcells⟩ := htuples cells (List.mem_singleton_self _)
    obtain ⟨htuple, hends, hfirst⟩ := isTuple_of_written hcolumns hfits hcells hline
    have hne : line ≠ [] := by
      obtain ⟨c, rest, rfl, -⟩ := hfirst
      exact List.cons_ne_nil c rest
    refine ⟨⟨[line], .last hne hends, ?_⟩, ?_⟩
    · rw [written_cons hfirst]
      exact .cons htuple .nil
    · rw [← List.append_nil line]
      exact head_append_of_not_blank hfirst []
  | @cons cells line ending rest tuples hline hending hrest ih =>
    rw [List.forall_mem_cons] at htuples
    obtain ⟨htuple, hends, hfirst⟩ :=
      isTuple_of_written hcolumns htuples.1.1 htuples.1.2 hline
    obtain ⟨⟨lines, hlines, htuples'⟩, hhead⟩ := ih htuples.2
    refine ⟨⟨line :: lines, .ended hends (isBreak_of_mem hending) (fun _ => hhead) hlines, ?_⟩, ?_⟩
    · rw [written_cons hfirst]
      exact .cons htuple htuples'
    · rw [List.append_assoc]
      exact head_append_of_not_blank hfirst _

end BorrowGraph.FactStore
