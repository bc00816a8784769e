/-
The tables of a drawn report.

Every label of the graph of a report is one table, whatever the texts of the report are: angle
brackets in them are escaped, and so are the line ends, which become line breaks inside cells.
So reading the graph back gives the cells that were drawn, row for row, and the widths of the
rows are those of the rows that were drawn.

* `IsPlainText`: texts that need no escaping, which are those of numbers and names;
* `Cell.IsFit`, `Row.IsFit`, `Table.IsFit`: what can be read back;
* `Table.IsFit.reads`, `table?_label`: a table is found in the graph, and read;
* `tables?_render`: all tables of a graph, in order;
* `render_wellFormed`: their names, rows and widths.
-/
import BorrowGraph.Proofs.Markup
import BorrowGraph.Report.Dot
import Mathlib.Data.List.Forall2

namespace BorrowGraph.Dot

open Markup

/-! ### Texts that need no escaping -/

/-- A character with no meaning of its own, be it in a string or in a label. -/
def IsPlainChar (c : Char) : Prop :=
  c ≠ '<' ∧ c ≠ '>' ∧ c ≠ '"' ∧ c ≠ '\\'

instance (c : Char) : Decidable (IsPlainChar c) :=
  inferInstanceAs (Decidable (_ ∧ _))

/-- A text of characters with no meaning of their own. -/
def IsPlainText (s : String) : Prop :=
  ∀ c ∈ s.toList, IsPlainChar c

theorem IsPlainText.of_all {s : String}
    (h : (s.toList.all fun c => decide (IsPlainChar c)) = true) :
    IsPlainText s := by
  intro c hc
  exact of_decide_eq_true (List.all_eq_true.mp h c hc)

theorem IsPlainText.append {s s' : String} (h : IsPlainText s) (h' : IsPlainText s') :
    IsPlainText (s ++ s') := by
  intro c hc
  rw [String.toList_append, List.mem_append] at hc
  exact hc.elim (h c) (h' c)

theorem IsPlainText.commas {ts : List String} (h : ∀ t ∈ ts, IsPlainText t) :
    IsPlainText (commas ts) := by
  induction ts with
  | nil => exact .of_all (by decide)
  | cons t ts ih =>
    rw [List.forall_mem_cons] at h
    rcases ts with _ | ⟨t', ts⟩
    · intro c hc
      rw [Dot.commas, String.toList_intercalate, List.map_singleton,
        List.intercalate_singleton] at hc
      exact h.1 c hc
    · intro c hc
      rw [Dot.commas, String.toList_intercalate, List.map_cons, List.map_cons,
        List.intercalate_cons_cons, List.mem_append, List.mem_append] at hc
      rcases hc with (hc | hc) | hc
      · exact h.1 c hc
      · exact IsPlainText.of_all (s := ", ") (by decide) c hc
      · refine ih h.2 c ?_
        rw [Dot.commas, String.toList_intercalate, List.map_cons]
        exact hc

theorem IsPlainText.isCellText {s : String} (h : IsPlainText s) : IsCellText s.toList :=
  .of_forall fun c hc => ⟨(h c hc).1, (h c hc).2.1⟩

theorem IsPlainText.isQuotedText {s : String} (h : IsPlainText s) : IsQuotedText s.toList :=
  .of_forall fun c hc => (h c hc).2.2

theorem isPlainChar_of_isDigit {c : Char} (h : c.isDigit = true) : IsPlainChar c := by
  refine ⟨?_, ?_, ?_, ?_⟩
  all_goals
    rintro rfl
    exact absurd h (by decide)

theorem isPlainText_repr (n : Nat) : IsPlainText (Nat.repr n) := by
  intro c hc
  rw [Nat.toList_repr] at hc
  exact isPlainChar_of_isDigit (Nat.isDigit_of_mem_toDigits (by decide) (by decide) hc)

theorem isPlainText_number (n : Int) : IsPlainText (Decimal.text n) := by
  cases n with
  | ofNat k => exact isPlainText_repr k
  | negSucc k => exact IsPlainText.append (.of_all (by decide)) (isPlainText_repr (k + 1))

theorem isPlainText_loan (l : Loan) : IsPlainText (Loan.text l) :=
  IsPlainText.append (.of_all (by decide)) (isPlainText_number l)

theorem isPlainText_local (n : Local) : IsPlainText (Local.text n) :=
  IsPlainText.append (.of_all (by decide)) (isPlainText_number n)

theorem isPlainText_loans (ls : List Loan) : IsPlainText (loansText ls) := by
  refine .commas fun t ht => ?_
  obtain ⟨l, -, rfl⟩ := List.mem_map.mp ht
  exact isPlainText_loan l

theorem isPlainText_blockName (index : Int) : IsPlainText (blockName index) :=
  IsPlainText.append (.of_all (by decide)) (isPlainText_number index)

theorem isPlainText_target (target : Edge.Target) : IsPlainText target.name := by
  cases target with
  | block index => exact isPlainText_blockName index
  | exit e => cases e <;> exact .of_all (by decide)

/-! ### Escaped texts -/

theorem isCellText_escapeLabel (s : String) : IsCellText (escapeLabel s).toList := by
  rw [escapeLabel, String.toList_ofList, Text.escapeWith]
  refine .flatMap fun c _ => ?_
  rw [escapeLabelChar]
  split
  · exact .of_forall (by simp)
  · split
    · exact .of_forall (by simp)
    · split
      · exact .of_forall (by simp)
      · split
        · exact .of_forall (by simp)
        · split
          · exact .lineBreak .nil
          · rename_i hclose hopen _ _
            exact .char hopen hclose .nil

theorem isQuotedText_escapeString (s : String) : IsQuotedText (escapeString s).toList := by
  rw [escapeString, String.toList_ofList, Text.escapeWith]
  induction s.toList with
  | nil => exact .nil
  | cons c cs ih =>
    rw [List.flatMap_cons]
    refine IsQuotedText.append ?_ ih
    rw [escapeStringChar]
    split
    · exact .escape .nil
    · split
      · exact .escape .nil
      · split
        · exact .escape .nil
        · rename_i hbackslash hquote _
          exact .char hquote hbackslash .nil

/-! ### Tables that can be read back -/

def Cell.IsFit (c : Cell) : Prop :=
  IsCellText c.content.toList

def Row.IsFit (r : Row) : Prop :=
  ∀ c ∈ r.cells, c.IsFit

/-- All cells of a table hold cell texts, and its name can be quoted. -/
structure Table.IsFit (t : Table) : Prop where
  name : IsQuotedText t.name.toList
  rows : ∀ r ∈ t.rows, r.IsFit

theorem Cell.isFit_ofText (s : String) : (Cell.ofText s).IsFit :=
  isCellText_escapeLabel s

theorem Cell.isFit_of_plain {s : String} (h : IsPlainText s) (span : Option Nat) :
    Cell.IsFit ⟨s, span⟩ :=
  h.isCellText

theorem Cell.isFit_of_all {x : String} (h : (x.toList.all fun c => decide (IsPlainChar c)) = true)
    (span : Option Nat) : Cell.IsFit ⟨x, span⟩ :=
  isFit_of_plain (.of_all h) span

/-- A cell as it is read back. -/
def Cell.reading (c : Cell) : Markup.Cell :=
  ⟨c.columns, c.content.toList⟩

def Row.reading (r : Row) : List Markup.Cell :=
  r.cells.map Cell.reading

/-- The opening tag of a cell. -/
def Cell.tag (c : Cell) : List Char :=
  match c.span with
  | none => "td".toList
  | some n => "td colspan=\"".toList ++ (Nat.toDigits 10 n ++ ['"'])

theorem Cell.columns?_tag (c : Cell) : columns? c.tag = some c.columns := by
  obtain ⟨content, _ | n⟩ := c
  · exact columns?_td
  · exact columns?_colspan n

theorem Cell.tag_plain (c : Cell) : ∀ x ∈ c.tag, x ≠ '<' ∧ x ≠ '>' := by
  obtain ⟨content, _ | n⟩ := c
  · simp [tag]
  · intro x hx
    have hmark : ∀ x ∈ "td colspan=\"".toList, x ≠ '<' ∧ x ≠ '>' := by simp
    rcases List.mem_append.mp hx with hx | hx
    · exact hmark x hx
    · rcases List.mem_append.mp hx with hx | hx
      · have hplain :=
          isPlainChar_of_isDigit (Nat.isDigit_of_mem_toDigits (by decide) (by decide) hx)
        exact ⟨hplain.1, hplain.2.1⟩
      · rw [List.mem_singleton.mp hx]
        decide

theorem Cell.toList_text (c : Cell) :
    c.text.toList = ('<' :: c.tag ++ ['>']) ++
      (c.content.toList ++ ('<' :: "/td".toList ++ ['>'])) := by
  obtain ⟨content, _ | n⟩ := c
  · simp [text, tag]
  · simp [text, tag, Nat.toList_repr]

section Reading

variable {c : Cell} {r : Row} {t : Table} {rows : List (List Markup.Cell)}
  {cells : List Markup.Cell}

theorem Cell.IsFit.isBalanced (h : c.IsFit) : IsBalanced c.text.toList := by
  rw [c.toList_text]
  have hopen : IsBalanced ('<' :: c.tag ++ ['>']) := .bracket (.of_forall c.tag_plain)
  have hclose : IsBalanced ('<' :: "/td".toList ++ ['>']) := .bracket (.of_forall (by simp))
  exact hopen.append ((IsCellText.isBalanced h).append hclose)

/-- A cell is read back. -/
theorem Cell.IsFit.advances (h : c.IsFit) :
    Advances c.text.toList (.inRow rows cells) (.inRow rows (c.reading :: cells)) := by
  rw [c.toList_text]
  have hopen :
      Advances ('<' :: c.tag ++ ['>']) (.inRow rows cells) (.inCell rows cells c.columns []) := by
    refine .tag c.tag_plain ?_
    -- An opening tag that claims columns does not close the row.
    have hnot : c.tag ≠ "/tr".toList := by
      intro htag
      have hcolumns := c.columns?_tag
      rw [htag] at hcolumns
      cases hcolumns
    rw [Place.tag, if_neg hnot, c.columns?_tag]
    rfl
  have hclose : Advances ('<' :: "/td".toList ++ ['>'])
      (.inCell rows cells c.columns (c.content.toList.reverse ++ []))
        (.inRow rows (c.reading :: cells)) := by
    refine .tag (by simp) ?_
    rw [Place.tag, if_pos rfl, List.append_nil, List.reverse_reverse]
    rfl
  exact hopen.append ((Advances.content h c.columns []).append hclose)

/-- Lines as they are written, each with its end. -/
def textOf (ls : List String) : List Char :=
  ls.flatMap fun l => l.toList ++ ['\n']

theorem textOf_append (ls ls' : List String) : textOf (ls ++ ls') = textOf ls ++ textOf ls' :=
  List.flatMap_append

/-- Rows are written with their tags around the cells, which stand on lines of their own or not. -/
theorem Row.textOf_lines (r : Row) :
    textOf r.lines = ('<' :: "tr".toList ++ ['>']) ++ ((if r.onOneLine then [] else ['\n']) ++
      ((r.cells.flatMap fun c => c.text.toList ++ (if r.onOneLine then [] else ['\n'])) ++
        (('<' :: "/tr".toList ++ ['>']) ++ ['\n']))) := by
  rw [Row.lines]
  split
  · simp [textOf, String.toList_join, List.flatMap_map]
  · simp [textOf, List.flatMap_map]

theorem Row.IsFit.isBalanced (h : r.IsFit) : IsBalanced (textOf r.lines) := by
  have hgap : IsBalanced (if r.onOneLine then [] else ['\n']) := by
    refine .of_forall ?_
    split
    · simp
    · simp
  have hopen : IsBalanced ('<' :: "tr".toList ++ ['>']) := .bracket (.of_forall (by simp))
  have hclose : IsBalanced ('<' :: "/tr".toList ++ ['>']) := .bracket (.of_forall (by simp))
  have hcells : IsBalanced
      (r.cells.flatMap fun c => c.text.toList ++ (if r.onOneLine then [] else ['\n'])) :=
    .flatMap fun c hc => (h c hc).isBalanced.append hgap
  rw [r.textOf_lines]
  exact hopen.append (hgap.append (hcells.append (hclose.append (.of_forall (by simp)))))

/-- The cells of a row are read back, one after the other. -/
theorem Row.IsFit.advances_cells {cs : List Cell} (h : ∀ c ∈ cs, c.IsFit) {gap : List Char}
    (hgap : ∀ p : List Markup.Cell, Advances gap (.inRow rows p) (.inRow rows p)) :
    Advances (cs.flatMap fun c => c.text.toList ++ gap) (.inRow rows cells)
      (.inRow rows ((cs.map Cell.reading).reverse ++ cells)) := by
  induction cs generalizing cells with
  | nil => exact .nil _
  | cons c cs ih =>
    rw [List.forall_mem_cons] at h
    rw [List.flatMap_cons, List.append_assoc, List.map_cons, List.reverse_cons, List.append_assoc,
      List.singleton_append]
    exact h.1.advances.append ((hgap _).append (ih h.2))

theorem Row.IsFit.advances (h : r.IsFit) :
    Advances (textOf r.lines) (.inTable rows) (.inTable (r.reading :: rows)) := by
  have hgap : ∀ p : List Markup.Cell,
      Advances (if r.onOneLine then [] else ['\n']) (.inRow rows p) (.inRow rows p) := by
    intro p
    split
    · exact .nil _
    · exact .char (by decide) (by decide) rfl
  have hopen : Advances ('<' :: "tr".toList ++ ['>']) (.inTable rows) (.inRow rows []) :=
    .tag (by simp) rfl
  have hclose : Advances ('<' :: "/tr".toList ++ ['>'])
      (.inRow rows ((r.cells.map Cell.reading).reverse ++ [])) (.inTable (r.reading :: rows)) := by
    refine .tag (by simp) ?_
    rw [Place.tag, if_pos rfl, List.append_nil, List.reverse_reverse]
    rfl
  have hend : Advances ['\n'] (.inTable (r.reading :: rows)) (.inTable (r.reading :: rows)) :=
    .char (by decide) (by decide) rfl
  rw [r.textOf_lines]
  exact hopen.append ((hgap _).append ((advances_cells h hgap).append (hclose.append hend)))

/-- The label of the node of a table. -/
def Table.label (t : Table) : List Char :=
  ('<' :: "table".toList ++ ['>']) ++ (['\n'] ++ ((t.rows.flatMap fun r => textOf r.lines) ++
    ('<' :: "/table".toList ++ ['>'])))

theorem Table.textOf_lines (t : Table) :
    textOf t.lines = "  \"".toList ++
      (t.name.toList ++ ("\" [shape=\"plaintext\", label=<".toList ++
      (t.label ++ ">];\n".toList))) := by
  simp [Table.lines, textOf, Table.label, List.flatMap_assoc]

/-- The table is found in the graph. -/
theorem Table.IsFit.reads (h : t.IsFit) :
    Reads (textOf t.lines) [(some t.name.toList, t.label)] := by
  have hopen : IsBalanced ('<' :: "table".toList ++ ['>']) := .bracket (.of_forall (by simp))
  have hclose : IsBalanced ('<' :: "/table".toList ++ ['>']) := .bracket (.of_forall (by simp))
  have hrows : IsBalanced (t.rows.flatMap fun r => textOf r.lines) :=
    .flatMap fun r hr => (h.rows r hr).isBalanced
  have hgap : IsBalanced ['\n'] := .of_forall (by simp)
  rw [t.textOf_lines]
  exact .node h.name (hopen.append (hgap.append (hrows.append hclose)))

theorem Table.IsFit.advances_rows {rs : List Row} (h : ∀ r ∈ rs, r.IsFit) :
    Advances (rs.flatMap fun r => textOf r.lines) (.inTable rows)
      (.inTable ((rs.map Row.reading).reverse ++ rows)) := by
  induction rs generalizing rows with
  | nil => exact .nil _
  | cons r rs ih =>
    rw [List.forall_mem_cons] at h
    rw [List.flatMap_cons, List.map_cons, List.reverse_cons, List.append_assoc,
      List.singleton_append]
    exact h.1.advances.append (ih h.2)

/-- The label of a table is read back as its rows. -/
theorem Table.IsFit.table?_label (h : t.IsFit) :
    table? t.label = some (t.rows.map Row.reading) := by
  have hopen : Advances ('<' :: "table".toList ++ ['>']) .start (.inTable []) := .tag (by simp) rfl
  have hgap : Advances ['\n'] (.inTable []) (.inTable []) := .char (by decide) (by decide) rfl
  have hclose : Advances ('<' :: "/table".toList ++ ['>'])
      (.inTable ((t.rows.map Row.reading).reverse ++ [])) (.finished (t.rows.map Row.reading)) := by
    refine .tag (by simp) ?_
    rw [Place.tag, if_neg (by decide), if_pos rfl, List.append_nil, List.reverse_reverse]
  exact table?_of_advances (hopen.append (hgap.append ((advances_rows h.rows).append hclose)))

end Reading

/-! ### The tables of a report -/

/-- The cell in the column of numbers, if there is one. -/
theorem isFit_numberCell {x : String} (h : IsPlainText x) (shown : Bool) :
    ∀ c ∈ if shown then [Cell.plain x] else [], c.IsFit := by
  cases shown with
  | false => simp
  | true => exact List.forall_mem_singleton.mpr (Cell.isFit_of_plain h none)

theorem isFit_recordRow (s : Settings) (r : Record) : (recordRow s r).IsFit := by
  have hnumber : IsPlainText (if r.isTerminator then "" else Decimal.text r.location.index) := by
    split
    · exact .of_all (by decide)
    · exact isPlainText_number _
  simp only [Row.IsFit, recordRow, List.forall_mem_append, List.forall_mem_cons, List.not_mem_nil,
    false_implies, implies_true, and_true]
  exact ⟨isFit_numberCell hnumber s.showIndices, Cell.isFit_ofText _,
    Cell.isFit_of_plain (isPlainText_loans _) none, Cell.isFit_of_plain (isPlainText_loans _) none,
    Cell.isFit_ofText _, Cell.isFit_ofText _, Cell.isFit_ofText _, Cell.isFit_ofText _,
    Cell.isFit_ofText _⟩

theorem isFit_headRows (s : Settings) (b : BlockReport) : ∀ r ∈ headRows s b, r.IsFit := by
  simp only [headRows, Row.IsFit, List.forall_mem_append, List.forall_mem_cons, List.not_mem_nil,
    false_implies, implies_true, and_true]
  refine ⟨⟨Cell.isFit_of_plain (isPlainText_blockName _) _, Cell.isFit_of_all (by decide) _,
    Cell.isFit_of_all (by decide) _⟩, isFit_numberCell (.of_all (by decide)) s.showIndices,
    Cell.isFit_of_all (by decide) _, Cell.isFit_of_all (by decide) _,
    Cell.isFit_of_all (by decide) _, Cell.isFit_of_all (by decide) _, Cell.isFit_ofText _⟩

theorem isFit_blockTable (s : Settings) (b : BlockReport) : (blockTable s b).IsFit where
  name := (isPlainText_blockName b.index).isQuotedText
  rows := by
    intro r hr
    rcases List.mem_append.mp hr with hr | hr
    · exact isFit_headRows s b r hr
    · obtain ⟨x, -, rfl⟩ := List.mem_map.mp hr
      exact isFit_recordRow s x

theorem isFit_localRow (regions : List (Local × Region)) (d : LocalDecl) :
    (localRow regions d).IsFit := by
  simp only [Row.IsFit, localRow, List.forall_mem_cons, List.not_mem_nil, false_implies,
    implies_true, and_true]
  refine ⟨Cell.isFit_ofText _, Cell.isFit_of_plain (isPlainText_local _) none, Cell.isFit_ofText _,
    ?_⟩
  split
  · exact isCellText_escapeLabel _
  · exact Cell.isFit_of_plain (.of_all (by decide)) none

theorem isFit_localsTable (r : Report) : (localsTable r).IsFit where
  name := IsPlainText.isQuotedText (s := "Variables") (.of_all (by decide))
  rows := by
    simp only [localsTable, Row.IsFit, List.forall_mem_append, List.forall_mem_cons,
      List.not_mem_nil, false_implies, implies_true, and_true, List.forall_mem_map]
    exact ⟨⟨Cell.isFit_of_all (by decide) _, Cell.isFit_of_all (by decide) _,
      Cell.isFit_of_all (by decide) _, Cell.isFit_of_all (by decide) _,
      Cell.isFit_of_all (by decide) _⟩, fun d _ => isFit_localRow r.regions d⟩

theorem isFit_loansTable (c : Completion) : (loansTable c).IsFit where
  name := IsPlainText.isQuotedText (s := "FakeLoans") (.of_all (by decide))
  rows := by
    simp only [loansTable, Row.IsFit, List.forall_mem_cons, List.not_mem_nil, false_implies,
      implies_true, and_true]
    refine ⟨Cell.isFit_of_all (by decide) _,
      ⟨Cell.isFit_of_all (by decide) _, Cell.isFit_of_plain (isPlainText_loans _) none⟩,
      ⟨Cell.isFit_of_all (by decide) _, Cell.isFit_of_plain (isPlainText_loans _) none⟩,
      Cell.isFit_of_all (by decide) _, Cell.isFit_of_plain (.commas fun t ht => ?_) none⟩
    obtain ⟨⟨l, n⟩, -, rfl⟩ := List.mem_map.mp ht
    exact ((isPlainText_loan l).append (.of_all (by decide))).append (isPlainText_local n)

/-- The tables of the graph of a report, in order. -/
def nodeTables (s : Settings) (r : Report) : List Table :=
  r.blocks.map (blockTable s) ++ ((if s.showVariables then [localsTable r] else []) ++
    if s.debugInfo then [loansTable r.completion] else [])

theorem isFit_nodeTables (s : Settings) (r : Report) : ∀ t ∈ nodeTables s r, t.IsFit := by
  have hlocals : ∀ t ∈ if s.showVariables then [localsTable r] else [], t.IsFit := by
    split
    · exact List.forall_mem_singleton.mpr (isFit_localsTable r)
    · simp
  have hloans : ∀ t ∈ if s.debugInfo then [loansTable r.completion] else [], t.IsFit := by
    split
    · exact List.forall_mem_singleton.mpr (isFit_loansTable r.completion)
    · simp
  rw [nodeTables, List.forall_mem_append, List.forall_mem_append, List.forall_mem_map]
  exact ⟨fun b _ => isFit_blockTable s b, hlocals, hloans⟩

/-! ### The graph of a report -/

theorem reads_edgeLine (e : Edge) : Reads (textOf [edgeLine e]) [] := by
  have hline : textOf [edgeLine e] =
      "  ".toList ++ (('"' :: (blockName e.source).toList ++ ['"']) ++
      (" -> ".toList ++ (('"' :: e.target.name.toList ++ ['"']) ++
        ((edgeStyle e.kind).toList ++ ['\n'])))) := by
    simp [textOf, edgeLine]
  have hstyle : Reads (edgeStyle e.kind).toList [] := by
    cases e.kind with
    | normal => exact .nil
    | unwind => exact .of_not_mem (by decide) (by decide)
    | imaginary =>
      have hstart : Reads " [style=".toList [] := .of_not_mem (by decide) (by decide)
      have hdashed : Reads ('"' :: "dashed".toList ++ ['"']) [] := .quoted (.of_forall (by simp))
      have hend : Reads "]".toList [] := .of_not_mem (by decide) (by decide)
      exact hstart.append (hdashed.append hend)
  rw [hline]
  exact (Reads.of_not_mem (by decide) (by decide)).append
    ((Reads.quoted (isPlainText_blockName _).isQuotedText).append
      ((Reads.of_not_mem (by decide) (by decide)).append
        ((Reads.quoted (isPlainText_target _).isQuotedText).append
          (hstyle.append (Reads.of_not_mem (by decide) (by decide))))))

theorem reads_edges (es : List Edge) : Reads (textOf (es.map edgeLine)) [] := by
  induction es with
  | nil => exact .nil
  | cons e es ih =>
    rw [List.map_cons, ← List.singleton_append, textOf_append]
    exact (reads_edgeLine e).append ih

/-- The labels of the nodes of some tables. -/
def labelsOf (ts : List Table) : List (Option (List Char) × List Char) :=
  ts.map fun t => (some t.name.toList, t.label)

theorem reads_blocks (s : Settings) (bs : List BlockReport) :
    Reads (textOf (bs.flatMap (blockLines s))) (labelsOf (bs.map (blockTable s))) := by
  induction bs with
  | nil => exact .nil
  | cons b bs ih =>
    rw [List.flatMap_cons, textOf_append, blockLines, textOf_append]
    exact ((isFit_blockTable s b).reads.append (reads_edges b.edges)).append ih

/-- A table that is drawn only if it is asked for. -/
theorem reads_optional {t : Table} (h : t.IsFit) (shown : Bool) :
    Reads (textOf (if shown then t.lines else [])) (labelsOf (if shown then [t] else [])) := by
  cases shown with
  | false => exact .nil
  | true => exact h.reads

theorem reads_lines (s : Settings) (r : Report) :
    Reads (textOf (lines s r)) (labelsOf (nodeTables s r)) := by
  have htitle : Reads (textOf ["digraph G \x7b"]) [] := .of_not_mem (by decide) (by decide)
  have hlabel : Reads (textOf ["  label=\"" ++ escapeString r.path ++ "\";"]) [] := by
    have hline : textOf ["  label=\"" ++ escapeString r.path ++ "\";"] =
        "  label=".toList ++ (('"' :: (escapeString r.path).toList ++ ['"']) ++ ";\n".toList) := by
      simp [textOf]
    rw [hline]
    exact (Reads.of_not_mem (by decide) (by decide)).append
      ((Reads.quoted (isQuotedText_escapeString r.path)).append
        (Reads.of_not_mem (by decide) (by decide)))
  have hnode : Reads (textOf ["  node [fontname=monospace, fontsize=10];"]) [] :=
    .of_not_mem (by decide) (by decide)
  have hend : Reads (textOf ["\x7d"]) [] := .of_not_mem (by decide) (by decide)
  -- The text and its labels are split in the same way, part by part.
  have htext : textOf (lines s r) = textOf ["digraph G \x7b"] ++
      (textOf ["  label=\"" ++ escapeString r.path ++ "\";"] ++
      (textOf ["  node [fontname=monospace, fontsize=10];"] ++
      (textOf (r.blocks.flatMap (blockLines s)) ++
      (textOf (if s.showVariables then (localsTable r).lines else []) ++
      (textOf (if s.debugInfo then (loansTable r.completion).lines else []) ++
        textOf ["\x7d"]))))) := by
    simp only [← textOf_append, lines]
    simp
  have hlabels : labelsOf (nodeTables s r) = [] ++ ([] ++ ([] ++
      (labelsOf (r.blocks.map (blockTable s)) ++
      (labelsOf (if s.showVariables then [localsTable r] else []) ++
      (labelsOf (if s.debugInfo then [loansTable r.completion] else []) ++ []))))) := by
    simp [labelsOf, nodeTables]
  rw [htext, hlabels]
  exact htitle.append (hlabel.append (hnode.append ((reads_blocks s r.blocks).append
    ((reads_optional (isFit_localsTable r) s.showVariables).append
      ((reads_optional (isFit_loansTable r.completion) s.debugInfo).append hend)))))

theorem toList_render (s : Settings) (r : Report) : (render s r).toList = textOf (lines s r) := by
  simp [render, String.toList_join, textOf, List.flatMap_map]

/-- A table as it is read back. -/
def Table.reading (t : Table) : Option (List Char) × List (List Markup.Cell) :=
  (some t.name.toList, t.rows.map Row.reading)

/-- Reading the graph back gives the tables that were drawn. -/
theorem tables?_render (s : Settings) (r : Report) :
    tables? (render s r).toList = some ((nodeTables s r).map Table.reading) := by
  have htables : ∀ ts : List Table, (∀ t ∈ ts, t.IsFit) →
      ((labelsOf ts).mapM fun x => (table? x.2).map fun rows => (x.1, rows)) =
        some (ts.map Table.reading) := by
    intro ts hts
    induction ts with
    | nil => rfl
    | cons t ts ih =>
      rw [List.forall_mem_cons] at hts
      rw [labelsOf, List.map_cons, List.mapM_cons, hts.1.table?_label]
      simp only [Option.map_some, Option.bind_eq_bind, Option.bind_some]
      rw [← labelsOf, ih hts.2]
      rfl
  rw [tables?, toList_render, labels?_of_reads (reads_lines s r)]
  exact htables _ (isFit_nodeTables s r)

/-! ### Widths -/

/-- The columns that a row spans. -/
def width (row : List Markup.Cell) : Nat :=
  (row.map Markup.Cell.columns).sum

theorem width_recordRow (s : Settings) (r : Record) :
    width (recordRow s r).reading = if s.showIndices then 9 else 8 := by
  rw [recordRow]
  cases s.showIndices with
  | false => rfl
  | true => rfl

theorem width_headRows (s : Settings) (b : BlockReport) :
    ∀ r ∈ headRows s b, width r.reading = if s.showIndices then 9 else 8 := by
  rw [headRows]
  cases s.showIndices with
  | false => simp [width, Row.reading, Cell.reading, Cell.columns, Cell.plain, Cell.ofText]
  | true => simp [width, Row.reading, Cell.reading, Cell.columns, Cell.plain, Cell.ofText]

/-- The node of a block: two rows at its head and one for each record, all of one width. -/
structure IsBlockNode (s : Settings) (b : BlockReport)
    (node : Option (List Char) × List (List Markup.Cell)) : Prop where
  name : node.1 = some (blockName b.index).toList
  width : ∀ row ∈ node.2, width row = if s.showIndices then 9 else 8
  rows : ∃ first second, node.2 = first :: second :: b.records.map fun x => (recordRow s x).reading

theorem isBlockNode_blockTable (s : Settings) (b : BlockReport) :
    IsBlockNode s b (blockTable s b).reading where
  name := rfl
  width := by
    refine List.forall_mem_map.mpr fun r hr => ?_
    rcases List.mem_append.mp hr with hr | hr
    · exact width_headRows s b r hr
    · obtain ⟨x, -, rfl⟩ := List.mem_map.mp hr
      exact width_recordRow s x
  rows := by
    have hrows : (blockTable s b).reading.2 =
        (headRows s b).map Row.reading ++ (b.records.map (recordRow s)).map Row.reading :=
      List.map_append
    rw [hrows, headRows, List.map_map]
    exact ⟨_, _, rfl⟩

theorem width_localsTable (r : Report) : ∀ row ∈ (localsTable r).reading.2, width row = 4 := by
  refine List.forall_mem_map.mpr fun row hrow => ?_
  rcases List.mem_append.mp hrow with hrow | hrow
  · simp only [List.mem_cons, List.not_mem_nil, or_false] at hrow
    rcases hrow with rfl | rfl
    · rfl
    · rfl
  · obtain ⟨d, -, rfl⟩ := List.mem_map.mp hrow
    rfl

theorem width_loansTable (c : Completion) : ∀ row ∈ (loansTable c).reading.2, width row = 2 := by
  simp [Table.reading, loansTable, width, Row.reading, Cell.reading, Cell.columns, Cell.plain]

/-- The graph of a report can be read back, whatever the texts of the report are: every label
is a table of rows of cells.  All rows of the table of a block have one width, and below two
rows at its head there is one for each record; the rows of the table of locals span four
columns, and those of the table of issued loans two. -/
theorem render_wellFormed (s : Settings) (r : Report) :
    ∃ blocks locals loans, tables? (render s r).toList = some (blocks ++ (locals ++ loans)) ∧
      List.Forall₂ (IsBlockNode s) r.blocks blocks ∧
      locals.length = (if s.showVariables then 1 else 0) ∧
      (∀ node ∈ locals, node.1 = some "Variables".toList ∧ ∀ row ∈ node.2, width row = 4) ∧
      loans.length = (if s.debugInfo then 1 else 0) ∧
      ∀ node ∈ loans, node.1 = some "FakeLoans".toList ∧ ∀ row ∈ node.2, width row = 2 := by
  refine ⟨(r.blocks.map (blockTable s)).map Table.reading,
    (if s.showVariables then [localsTable r] else []).map Table.reading,
    (if s.debugInfo then [loansTable r.completion] else []).map Table.reading, ?_, ?_, ?_, ?_, ?_,
      ?_⟩
  · rw [tables?_render, nodeTables, List.map_append, List.map_append]
  · rw [List.map_map, List.forall₂_map_right_iff]
    exact List.forall₂_same.mpr fun b _ => isBlockNode_blockTable s b
  · cases s.showVariables with
    | false => rfl
    | true => rfl
  · cases s.showVariables with
    | false => simp
    | true => exact List.forall_mem_singleton.mpr ⟨rfl, width_localsTable r⟩
  · cases s.debugInfo with
    | false => rfl
    | true => rfl
  · cases s.debugInfo with
    | false => simp
    | true => exact List.forall_mem_singleton.mpr ⟨rfl, width_loansTable r.completion⟩

end BorrowGraph.Dot
