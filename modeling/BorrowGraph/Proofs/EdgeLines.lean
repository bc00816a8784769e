/-
Reading the edges of a drawn report back.

In the graph of a report every edge has a line of its own.  No other line looks like the line
of an edge, whatever the texts of the report are.  In a table no `>` stands behind a dash,
since the texts of its cells are escaped and tags do not end in a dash.  In the label of the
graph only the closing quote can stand behind a blank.  So the control flow of a function can
be read from the graph of its report.

* `NeverBehind`: a character that never stands right behind another one;
* `looksLikeEdge`, `edgeLines`: the lines that begin like an edge of a block and have an arrow;
* `readEdge?`, `readEdge?_edgeLine`: an edge is read from its line;
* `edgeLines_render`: the lines of a graph that look like edges;
* `edges_of_build`: the edges of a report are those of the blocks of the function;
* `render_edges_readBack`: reading the graph gives the edges of the function.
-/
import BorrowGraph.Proofs.Escaping
import BorrowGraph.Proofs.ReportCells

namespace BorrowGraph.Text

/-! ### Neighbours in a text -/

/-- Nowhere in a text does `y` stand right behind `x`. -/
def NeverBehind (x y : Char) (cs : List Char) : Prop :=
  ∀ before, before ++ [y] <+: cs → before.getLast? ≠ some x

namespace NeverBehind

variable {x y : Char} {us vs : List Char}

theorem of_not_mem (h : y ∉ us) : NeverBehind x y us :=
  fun _ hbefore _ => h (hbefore.subset (by simp))

theorem of_not_mem_left (h : x ∉ us) : NeverBehind x y us := by
  intro before hbefore hlast
  have hmem : x ∈ before := List.mem_of_getLast? hlast
  exact h (hbefore.subset (List.mem_append_left _ hmem))

theorem singleton (c : Char) : NeverBehind x y [c] := by
  intro before hbefore hlast
  have hlength := hbefore.length_le
  rw [List.length_append, List.length_singleton, List.length_singleton] at hlength
  have hnil : before = [] := List.eq_nil_of_length_eq_zero (by omega)
  simp [hnil] at hlast

/-- Two texts with no neighbours where they meet. -/
theorem append (hus : NeverBehind x y us) (hvs : NeverBehind x y vs)
    (hmeet : us.getLast? ≠ some x ∨ vs.head? ≠ some y) : NeverBehind x y (us ++ vs) := by
  intro before hbefore hlast
  rcases Dot.prefix_append_cases hbefore with hleft | ⟨before', hright, rfl⟩
  · exact hus before hleft hlast
  · rw [List.getLast?_append] at hlast
    rcases hlast' : before'.getLast? with _ | c
    · -- The occurrence is the first character of the second text.
      rw [List.getLast?_eq_none_iff] at hlast'
      subst hlast'
      obtain ⟨rest, rfl⟩ := hright
      exact hmeet.elim (fun h => h hlast) fun h => h rfl
    · rw [hlast', Option.some_or] at hlast
      exact hvs before' hright (hlast'.trans hlast)

theorem flatMap {α : Type} {f : α → List Char} {as : List α}
    (h : ∀ a ∈ as, NeverBehind x y (f a) ∧ (f a).getLast? ≠ some x) :
    NeverBehind x y (as.flatMap f) := by
  induction as with
  | nil => exact of_not_mem (by simp)
  | cons a as ih =>
    rw [List.forall_mem_cons] at h
    exact h.1.1.append (ih h.2) (.inl h.1.2)

theorem not_adjacent (h : NeverBehind x y us) : ¬ [x, y] <:+: us := by
  rintro ⟨before, after, rfl⟩
  refine h (before ++ [x]) ⟨after, by simp⟩ ?_
  rw [List.getLast?_concat]

end NeverBehind

/-- A text cannot reach into a character that it does not end with. -/
theorem not_infix_concat {pattern us : List Char} {c : Char} (hne : pattern ≠ [])
    (hlast : pattern.getLast? ≠ some c) (h : ¬ pattern <:+: us) : ¬ pattern <:+: us ++ [c] := by
  rw [List.infix_concat_iff]
  rintro (hsuffix | hpart)
  · -- The last characters of both sides would have to be the same.
    obtain ⟨before, hbefore⟩ := hsuffix
    have hends := congrArg List.getLast? hbefore
    rw [List.getLast?_append, List.getLast?_concat] at hends
    rw [List.getLast?_eq_some_getLast hne] at hends hlast
    exact hlast (by simpa using hends)
  · exact h hpart

/-- The pieces into which a text is cut are parts of it. -/
theorem infix_of_mem_splitOnP {ends : Char → Bool} {piece cs : List Char}
    (h : piece ∈ cs.splitOnP ends) : piece <:+: cs := by
  -- The first piece is where the text begins; this is what the induction needs.
  have hpieces : ∀ cs : List Char, ∃ first rest, cs.splitOnP ends = first :: rest ∧ first <+: cs ∧
      ∀ piece ∈ rest, piece <:+: cs := by
    intro cs
    induction cs with
    | nil => exact ⟨[], [], List.splitOnP_nil, List.prefix_refl _, by simp⟩
    | cons c cs ih =>
      obtain ⟨first, rest, hsplit, hfirst, hrest⟩ := ih
      rw [List.splitOnP_cons_eq_if_modifyHead, hsplit]
      split
      · refine ⟨[], first :: rest, rfl, List.nil_prefix, ?_⟩
        rw [List.forall_mem_cons]
        exact ⟨hfirst.isInfix.trans (List.suffix_cons c cs).isInfix,
          fun piece hpiece => (hrest piece hpiece).trans (List.suffix_cons c cs).isInfix⟩
      · refine ⟨c :: first, rest, rfl, List.cons_prefix_cons.mpr ⟨rfl, hfirst⟩, ?_⟩
        exact fun piece hpiece => (hrest piece hpiece).trans (List.suffix_cons c cs).isInfix
  obtain ⟨first, rest, hsplit, hfirst, hrest⟩ := hpieces cs
  rw [hsplit, List.mem_cons] at h
  rcases h with rfl | h
  · exact hfirst.isInfix
  · exact hrest piece h

end BorrowGraph.Text

namespace BorrowGraph.Dot

open Text

/-! ### Lines that look like edges -/

/-- A line that begins with the name of a block and has an arrow between two quotes. -/
def looksLikeEdge (line : List Char) : Bool :=
  "  \"bb".toList.isPrefixOf line && decide ("\" -> \"".toList <:+: line)

/-- The lines of a text that look like edges.  Which characters end a line is left open. -/
def edgeLines (ends : Char → Bool) (cs : List Char) : List (List Char) :=
  (cs.splitOnP ends).filter looksLikeEdge

section Lines

variable {ends : Char → Bool}

theorem edgeLines_eq_nil {cs : List Char}
    (h : ¬ "  \"bb".toList <:+: cs ∨ ¬ "\" -> \"".toList <:+: cs) : edgeLines ends cs = [] := by
  rw [edgeLines, List.filter_eq_nil_iff]
  intro piece hpiece hlooks
  have hpart : piece <:+: cs := infix_of_mem_splitOnP hpiece
  rw [looksLikeEdge, Bool.and_eq_true, List.isPrefixOf_iff_prefix, decide_eq_true_eq] at hlooks
  rcases h with h | h
  · exact h (hlooks.1.isInfix.trans hpart)
  · exact h (hlooks.2.trans hpart)

theorem edgeLines_append (hfeed : ends '\n' = true) (us vs : List Char) :
    edgeLines ends (us ++ '\n' :: vs) = edgeLines ends us ++ edgeLines ends vs := by
  rw [edgeLines, List.splitOnP_append_cons us vs hfeed, List.filter_append]
  rfl

/-- The lines that look like edges, line by line. -/
theorem edgeLines_textOf (hfeed : ends '\n' = true) (ls : List String) :
    edgeLines ends (textOf ls) = ls.flatMap fun l => edgeLines ends l.toList := by
  induction ls with
  | nil =>
    rw [List.flatMap_nil]
    exact edgeLines_eq_nil (.inl (by decide))
  | cons l ls ih =>
    have htext : textOf (l :: ls) = l.toList ++ '\n' :: textOf ls := by
      simp [textOf]
    rw [htext, edgeLines_append hfeed, ih, List.flatMap_cons]

end Lines

/-! ### Tables have no arrows -/

/-- No arrow head stands behind a dash. -/
def HasNoArrow (cs : List Char) : Prop :=
  NeverBehind '-' '>' cs

theorem HasNoArrow.edgeLines {cs : List Char} (h : HasNoArrow cs) (ends : Char → Bool) :
    edgeLines ends cs = [] := by
  refine edgeLines_eq_nil (.inr fun harrow => h.not_adjacent ?_)
  exact List.IsInfix.trans (by decide) harrow

theorem hasNoArrow_cellText {cs : List Char} (h : Markup.IsCellText cs) :
    HasNoArrow cs ∧ cs.head? ≠ some '>' := by
  induction h with
  | nil => exact ⟨.of_not_mem (by simp), by simp⟩
  | @char c cs hopen hclose _ ih =>
    have hfirst : HasNoArrow [c] := .of_not_mem (by simpa using Ne.symm hclose)
    exact ⟨hfirst.append ih.1 (.inr ih.2), by simpa using hclose⟩
  | @lineBreak cs _ ih =>
    have hbreak : HasNoArrow "<br/>".toList := .of_not_mem_left (by decide)
    exact ⟨hbreak.append ih.1 (.inr ih.2), by simp⟩

theorem dash_not_mem_tag (c : Cell) : '-' ∉ '<' :: c.tag ++ ['>'] := by
  obtain ⟨content, _ | n⟩ := c
  · simp [Cell.tag]
  · simp [Cell.tag, Spelling.dash_not_mem_toDigits n]

section Tables

variable {c : Cell} {r : Row} {t : Table} {ends : Char → Bool}

theorem Cell.IsFit.hasNoArrow (h : c.IsFit) :
    HasNoArrow c.text.toList ∧ c.text.toList.getLast? ≠ some '-' := by
  have hopen : HasNoArrow ('<' :: c.tag ++ ['>']) := .of_not_mem_left (dash_not_mem_tag c)
  have hclose : HasNoArrow ('<' :: "/td".toList ++ ['>']) := .of_not_mem_left (by decide)
  have hcontent := hasNoArrow_cellText h
  rw [c.toList_text]
  constructor
  · -- The opening tag does not end in a dash, and the closing one begins with `<`.
    refine hopen.append (hcontent.1.append hclose (.inr (by simp))) (.inl ?_)
    rw [List.getLast?_concat]
    decide
  · rw [List.getLast?_append, List.getLast?_append, List.getLast?_concat]
    simp

theorem Row.IsFit.hasNoArrow (h : r.IsFit) : ∀ l ∈ r.lines, HasNoArrow l.toList := by
  have hopen : HasNoArrow "<tr>".toList := .of_not_mem_left (by decide)
  have hclose : HasNoArrow "</tr>".toList := .of_not_mem_left (by decide)
  rw [Row.lines]
  split
  · -- On one line the cells meet, but each of them ends with its closing tag.
    have hcells : HasNoArrow (r.cells.flatMap fun c => c.text.toList) :=
      .flatMap fun c hc => (h c hc).hasNoArrow
    rw [List.forall_mem_singleton, String.toList_append, String.toList_append, String.toList_join,
      List.flatMap_map]
    exact (hopen.append hcells (.inl (by simp))).append hclose (.inr (by simp))
  · intro l hl
    rw [List.mem_append, List.mem_cons, List.mem_map, List.mem_singleton] at hl
    rcases hl with (rfl | ⟨c, hc, rfl⟩) | rfl
    · exact hopen
    · exact (h c hc).hasNoArrow.1
    · exact hclose

theorem Table.IsFit.hasNoArrow (h : t.IsFit) (hname : '>' ∉ t.name.toList) :
    ∀ l ∈ t.lines, HasNoArrow l.toList := by
  have hhead :
      HasNoArrow ("  \"" ++ t.name ++ "\" [shape=\"plaintext\", label=<<table>").toList := by
    have hopen : HasNoArrow ("  \"".toList ++ t.name.toList) := .of_not_mem (by simpa using hname)
    have hattributes : HasNoArrow "\" [shape=\"plaintext\", label=<<table>".toList :=
      .of_not_mem_left (by decide)
    rw [String.toList_append, String.toList_append]
    exact hopen.append hattributes (.inr (by simp))
  have hend : HasNoArrow "</table>>];".toList := .of_not_mem_left (by decide)
  intro l hl
  rw [Table.lines, List.mem_append, List.mem_cons, List.mem_flatMap, List.mem_singleton] at hl
  rcases hl with (rfl | ⟨r, hr, hl⟩) | rfl
  · exact hhead
  · exact (h.rows r hr).hasNoArrow l hl
  · exact hend

theorem Table.IsFit.edgeLines (h : t.IsFit) (hname : '>' ∉ t.name.toList) (ends : Char → Bool) :
    t.lines.flatMap (fun l => edgeLines ends l.toList) = [] :=
  List.flatMap_eq_nil_iff.mpr fun l hl => (h.hasNoArrow hname l hl).edgeLines ends

end Tables

/-! ### The label of the graph -/

/-- In a quoted string every quote is escaped. -/
theorem neverBehind_quoted {cs : List Char} (h : Markup.IsQuotedText cs) :
    NeverBehind ' ' '"' cs ∧ cs.head? ≠ some '"' := by
  induction h with
  | nil => exact ⟨.of_not_mem (by simp), by simp⟩
  | @char c cs hquote _ _ ih =>
    have hcs := (NeverBehind.singleton c).append ih.1 (.inr ih.2)
    exact ⟨hcs, by simpa using hquote⟩
  | @escape c cs _ ih =>
    have hcs := (NeverBehind.singleton c).append ih.1 (.inr ih.2)
    exact ⟨(NeverBehind.singleton '\\').append hcs (.inl (by simp)), by simp⟩

theorem edgeLines_label (ends : Char → Bool) (s : String) :
    edgeLines ends ("  label=\"" ++ escapeString s ++ "\";").toList = [] := by
  have hline : ("  label=\"" ++ escapeString s ++ "\";").toList =
      ("  label=".toList ++ ('"' :: (escapeString s).toList)) ++ ['"'] ++ [';'] := by
    simp
  have hquoted := neverBehind_quoted (isQuotedText_escapeString s)
  have hopen : NeverBehind ' ' '"' "  label=".toList := .of_not_mem (by decide)
  have hinside : NeverBehind ' ' '"' ('"' :: (escapeString s).toList) :=
    (NeverBehind.singleton '"').append hquoted.1 (.inr hquoted.2)
  have hlabel : ¬ "  \"bb".toList <:+: "  label=".toList ++ ('"' :: (escapeString s).toList) := by
    intro hpart
    exact (hopen.append hinside (.inl (by simp))).not_adjacent
      (List.IsInfix.trans (by decide) hpart)
  -- The closing quote may stand behind a blank, but no name of a block follows it.
  rw [hline]
  exact edgeLines_eq_nil (.inl (not_infix_concat (by decide) (by decide)
    (not_infix_concat (by decide) (by decide) hlabel)))

/-! ### Reading an edge -/

/-- The number that some digits stand for. -/
def natural? (ds : List Char) : Option Nat :=
  if ds ≠ [] ∧ ds.all Char.isDigit = true then some (Nat.ofDigitChars 10 ds 0) else none

def number? (cs : List Char) : Option Int :=
  if cs.head? = some '-' then (natural? cs.tail).map fun n : Nat => -(n : Int)
  else (natural? cs).map fun n : Nat => (n : Int)

/-- The block with a name. -/
def block? (cs : List Char) : Option Int :=
  (stripStart? "bb".toList cs).bind number?

/-- The exit or the block with a name. -/
def target? (cs : List Char) : Option Edge.Target :=
  (([.resume, .abort, .return] : List Exit).find? fun e => e.text.toList = cs).map .exit
    |>.or ((block? cs).map .block)

/-- The kind that is drawn in a style. -/
def kind? (cs : List Char) : Option Edge.Kind :=
  ([.normal, .unwind, .imaginary] : List Edge.Kind).find? fun k => (edgeStyle k).toList = cs

/-- The edge on a line. -/
def readEdge? (line : List Char) : Option Edge := do
  let source ← quoted? (← stripStart? "  \"".toList line)
  let target ← quoted? (← stripStart? " -> \"".toList source.2)
  return ⟨← block? source.1, ← target? target.1, ← kind? target.2⟩

theorem natural?_toDigits (n : Nat) : natural? (Nat.toDigits 10 n) = some n := by
  have hdigits : (Nat.toDigits 10 n).all Char.isDigit = true :=
    List.all_eq_true.mpr fun c hc => Nat.isDigit_of_mem_toDigits (by decide) (by decide) hc
  rw [natural?, if_pos ⟨Nat.toDigits_ne_nil, hdigits⟩, Nat.ofDigitChars_ten_toDigits]

theorem number?_text (n : Int) : number? (Decimal.text n).toList = some n := by
  cases n with
  | ofNat k =>
    -- A text without a sign begins with a digit.
    have hsign : (Nat.toDigits 10 k).head? ≠ some '-' := fun hhead =>
      Spelling.dash_not_mem_toDigits k (List.mem_of_head? hhead)
    rw [Decimal.text, Nat.toList_repr, number?, if_neg hsign, natural?_toDigits]
    rfl
  | negSucc k =>
    rw [Spelling.toList_text_negSucc, number?, if_pos List.head?_cons, List.tail_cons,
      natural?_toDigits]
    rfl

theorem block?_blockName (index : Int) : block? (blockName index).toList = some index := by
  have hstrip : stripStart? "bb".toList (blockName index).toList =
      some (Decimal.text index).toList :=
    Spelling.stripStart?_eq_some_iff.mpr (String.toList_append ..)
  rw [block?, hstrip, Option.bind_some, number?_text]

theorem target?_name (t : Edge.Target) : target? t.name.toList = some t := by
  cases t with
  | block index =>
    -- The name of a block has another first letter than the name of an exit.
    have hexit : ∀ e : Exit, e.text.toList ≠ (blockName index).toList := by
      intro e heq
      have hhead := congrArg List.head? heq
      rw [blockName, String.toList_append] at hhead
      cases e <;> simp [Exit.text] at hhead
    rw [target?, Edge.Target.name, List.find?_eq_none.mpr fun e _ => by simpa using hexit e,
      block?_blockName]
    rfl
  | exit e => cases e <;> rfl

theorem kind?_edgeStyle (k : Edge.Kind) : kind? (edgeStyle k).toList = some k := by
  cases k <;> rfl

theorem toList_edgeLine (e : Edge) :
    (edgeLine e).toList = "  \"".toList ++ ((blockName e.source).toList ++
      '"' :: (" -> \"".toList ++ (e.target.name.toList ++ '"' :: (edgeStyle e.kind).toList))) := by
  simp [edgeLine]

/-- An edge is read from its line. -/
theorem readEdge?_edgeLine (e : Edge) : readEdge? (edgeLine e).toList = some e := by
  have hstrip : ∀ start rest : List Char, stripStart? start (start ++ rest) = some rest :=
    fun _ _ => Spelling.stripStart?_eq_some_iff.mpr rfl
  have hsource := quoted?_of_isQuotedText (isPlainText_blockName e.source).isQuotedText
  have htarget := quoted?_of_isQuotedText (isPlainText_target e.target).isQuotedText
  simp only [readEdge?, toList_edgeLine, hstrip, hsource, htarget, block?_blockName, target?_name,
    kind?_edgeStyle, Option.bind_eq_bind, Option.bind_some, Option.pure_def]

theorem eq_of_quotedFrom {escaped : Bool} {cs : List Char} {x : List Char × List Char}
    (h : quotedFrom escaped cs = some x) : cs = x.1 ++ '"' :: x.2 := by
  induction cs generalizing escaped x with
  | nil => cases h
  | cons c cs ih =>
    rw [quotedFrom] at h
    split at h
    · rename_i hend
      obtain rfl := Option.some.inj h
      rw [hend.1, List.nil_append]
    · obtain ⟨y, hy, rfl⟩ := Option.map_eq_some_iff.mp h
      rw [ih hy, List.cons_append]

/-- What can be read as an edge looks like one. -/
theorem looksLikeEdge_of_readEdge? {line : List Char} {e : Edge} (h : readEdge? line = some e) :
    looksLikeEdge line = true := by
  simp only [readEdge?, Option.bind_eq_bind, Option.bind_eq_some_iff, block?] at h
  obtain ⟨inside, hopen, source, hsource, behind, harrow, target, htarget, _, ⟨number, hblock, -⟩,
    -⟩ := h
  rw [Spelling.stripStart?_eq_some_iff] at hopen harrow hblock
  have hline : line = "  \"bb".toList ++ (number ++ ("\" -> \"".toList ++ behind)) := by
    rw [hopen, eq_of_quotedFrom hsource, harrow, hblock]
    simp
  rw [looksLikeEdge, Bool.and_eq_true, List.isPrefixOf_iff_prefix, decide_eq_true_eq, hline]
  refine ⟨List.prefix_append _ _, ?_⟩
  -- The arrow stands between the number and what is behind it.
  rw [← List.append_assoc]
  exact List.infix_append' _ _ _

/-! ### The line of an edge -/

theorem isLineEnd_of_isDigit {c : Char} (h : c.isDigit = true) : isLineEnd c = false := by
  obtain ⟨hlow, hhigh⟩ := Spelling.toNat_of_isDigit h
  rw [isLineEnd]
  grind

theorem isLineEnd_number (n : Int) : ∀ c ∈ (Decimal.text n).toList, isLineEnd c = false := by
  have hdigits : ∀ k : Nat, ∀ c ∈ Nat.toDigits 10 k, isLineEnd c = false := fun k c hc =>
    isLineEnd_of_isDigit (Nat.isDigit_of_mem_toDigits (by decide) (by decide) hc)
  cases n with
  | ofNat k =>
    rw [Decimal.text, Nat.toList_repr]
    exact hdigits k
  | negSucc k =>
    rw [Spelling.toList_text_negSucc, List.forall_mem_cons]
    exact ⟨by decide, hdigits (k + 1)⟩

theorem isLineEnd_blockName (index : Int) :
    ∀ c ∈ (blockName index).toList, isLineEnd c = false := by
  rw [blockName, String.toList_append, List.forall_mem_append]
  exact ⟨by simp [isLineEnd], isLineEnd_number index⟩

theorem isLineEnd_edgeLine (e : Edge) : ∀ c ∈ (edgeLine e).toList, isLineEnd c = false := by
  have htarget : ∀ c ∈ e.target.name.toList, isLineEnd c = false := by
    cases e.target with
    | block index => exact isLineEnd_blockName index
    | exit e => cases e <;> simp [Edge.Target.name, Exit.text, isLineEnd]
  have hstyle : ∀ c ∈ (edgeStyle e.kind).toList, isLineEnd c = false := by
    cases e.kind <;> simp [edgeStyle, isLineEnd]
  rw [toList_edgeLine]
  simp only [List.forall_mem_append, List.forall_mem_cons]
  exact ⟨by simp [isLineEnd], isLineEnd_blockName _, by decide, by simp [isLineEnd], htarget,
    by decide, hstyle⟩

/-- The line of an edge is not cut. -/
theorem edgeLines_edgeLine {ends : Char → Bool} (hends : ∀ c, ends c = true → isLineEnd c = true)
    (e : Edge) : edgeLines ends (edgeLine e).toList = [(edgeLine e).toList] := by
  have hnone : ∀ c ∈ (edgeLine e).toList, ends c = false := by
    intro c hc
    refine Bool.eq_false_iff.mpr fun hend => ?_
    exact absurd (hends c hend) (by simp [isLineEnd_edgeLine e c hc])
  have hlooks : looksLikeEdge (edgeLine e).toList = true :=
    looksLikeEdge_of_readEdge? (readEdge?_edgeLine e)
  rw [edgeLines, List.splitOnP_eq_singleton hnone, List.filter_singleton, hlooks]
  rfl

/-! ### The lines of a graph -/

section Graph

variable {ends : Char → Bool}

/-- Only the edges of a block look like edges among its lines. -/
theorem edgeLines_blockLines (hends : ∀ c, ends c = true → isLineEnd c = true) (s : Settings)
    (b : BlockReport) :
    (blockLines s b).flatMap (fun l => edgeLines ends l.toList) =
      b.edges.map fun e => (edgeLine e).toList := by
  have hname : '>' ∉ (blockTable s b).name.toList := fun hmem =>
    (isPlainText_blockName b.index _ hmem).2.1 rfl
  rw [blockLines, List.flatMap_append, (isFit_blockTable s b).edgeLines hname, List.nil_append,
    List.flatMap_map, List.map_eq_flatMap]
  exact List.flatMap_congr fun e _ => edgeLines_edgeLine hends e

/-- The lines of a graph that look like edges are those of the edges of its report. -/
theorem edgeLines_render (hfeed : ends '\n' = true)
    (hends : ∀ c, ends c = true → isLineEnd c = true) (s : Settings) (r : Report) :
    edgeLines ends (render s r).toList = r.edges.map fun e => (edgeLine e).toList := by
  have hblocks : (r.blocks.flatMap (blockLines s)).flatMap (fun l => edgeLines ends l.toList) =
      r.edges.map fun e => (edgeLine e).toList := by
    rw [List.flatMap_assoc, Report.edges, List.map_flatMap]
    exact List.flatMap_congr fun b _ => edgeLines_blockLines hends s b
  have hlocals : (if s.showVariables then (localsTable r).lines else []).flatMap
      (fun l => edgeLines ends l.toList) = [] := by
    split
    · exact (isFit_localsTable r).edgeLines (by simp [localsTable]) ends
    · rfl
  have hloans : (if s.debugInfo then (loansTable r.completion).lines else []).flatMap
      (fun l => edgeLines ends l.toList) = [] := by
    split
    · exact (isFit_loansTable r.completion).edgeLines (by simp [loansTable]) ends
    · rfl
  have hstart : edgeLines ends "digraph G \x7b".toList = [] := edgeLines_eq_nil (.inl (by decide))
  have hnode : edgeLines ends "  node [fontname=monospace, fontsize=10];".toList = [] :=
    edgeLines_eq_nil (.inl (by decide))
  have hend : edgeLines ends "\x7d".toList = [] := edgeLines_eq_nil (.inl (by decide))
  rw [toList_render, edgeLines_textOf hfeed, lines]
  simp only [List.flatMap_append, List.flatMap_cons, List.flatMap_nil, hblocks, hlocals, hloans,
    hstart, edgeLines_label, hnode, hend, List.nil_append, List.append_nil]

end Graph

end BorrowGraph.Dot

namespace BorrowGraph.Report

variable {body : Body} {a : Analysis} {init : Option Initialization} {name path : String}
  {r : Report}

/-- The edges of a report are those of the blocks. -/
theorem edges_of_build (h : build body a init name path = .ok r) :
    body.blocks.mapM Block.edges = .ok (r.blocks.map BlockReport.edges) := by
  rw [mapM_eq_ok, List.forall₂_map_right_iff]
  refine (build_eq_ok h).imp fun b br hb => ?_
  rw [blockReport_eq] at hb
  obtain ⟨records, -, hb⟩ := bind_eq_ok.mp hb
  obtain ⟨edges, hedges, hb⟩ := bind_eq_ok.mp hb
  obtain rfl := Except.ok.inj hb
  exact hedges

/-- No text of a function decides on the edges of its report. -/
theorem edges_eq_of_build {body' : Body} {a' : Analysis} {init' : Option Initialization}
    {name' path' : String} {r' : Report} (h : build body a init name path = .ok r)
    (h' : build body' a' init' name' path' = .ok r')
    (hblocks : body'.blocks.map Block.edges = body.blocks.map Block.edges) :
    r'.edges = r.edges := by
  -- Going through the blocks asks nothing but their edges.
  have hmap : ∀ bs : List Block, bs.mapM Block.edges = (bs.map Block.edges).mapM id := fun bs => by
    rw [List.mapM_map]
    rfl
  have hedges := edges_of_build h
  have hedges' := edges_of_build h'
  rw [hmap, hblocks, ← hmap, hedges] at hedges'
  rw [edges, edges, List.flatMap_def, List.flatMap_def, Except.ok.inj hedges']

end BorrowGraph.Report

namespace BorrowGraph.Dot

open Text

/-- The control flow of a function can be read from the graph of its report.  The lines that
look like edges are those of the edges of the report, in order; each of them gives its edge
back, and no other line can be read as an edge.  These are the edges of the blocks of the
function, and nothing else of the function, of what is known about it or of the settings has a
part in these lines. -/
theorem render_edges_readBack {ends : Char → Bool} (hfeed : ends '\n' = true)
    (hends : ∀ c, ends c = true → isLineEnd c = true) {body : Body} {a : Analysis}
    {init : Option Initialization} {name path : String} {r : Report}
    (h : Report.build body a init name path = .ok r) (s : Settings) :
    edgeLines ends (render s r).toList = r.edges.map (fun e => (edgeLine e).toList) ∧
    (edgeLines ends (render s r).toList).map readEdge? = r.edges.map some ∧
    ((render s r).toList.splitOnP ends).filterMap readEdge? = r.edges ∧
    (∃ edges, body.blocks.mapM Block.edges = .ok edges ∧ r.edges = edges.flatten) ∧
    ∀ {body' : Body} {a' : Analysis} {init' : Option Initialization} {name' path' : String}
      {r' : Report}
      (s' : Settings), Report.build body' a' init' name' path' = .ok r' →
      body'.blocks.map Block.edges = body.blocks.map Block.edges →
      edgeLines ends (render s' r').toList = edgeLines ends (render s r).toList := by
  have hlines := edgeLines_render hfeed hends s r
  have hread : (readEdge? ∘ fun e => (edgeLine e).toList) = some := funext readEdge?_edgeLine
  refine ⟨hlines, by rw [hlines, List.map_map, hread], ?_,
    ⟨_, Report.edges_of_build h, List.flatMap_def⟩, ?_⟩
  · -- Lines that do not look like edges cannot be read, so leaving them out changes nothing.
    have hothers : ∀ line : List Char, (if looksLikeEdge line then readEdge? line else none) =
        readEdge? line := by
      intro line
      split
      · rfl
      · rename_i hlooks
        exact (Option.eq_none_iff_forall_ne_some.mpr fun e he =>
          hlooks (looksLikeEdge_of_readEdge? he)).symm
    have hfilter : (edgeLines ends (render s r).toList).filterMap readEdge? =
        ((render s r).toList.splitOnP ends).filterMap readEdge? := by
      rw [edgeLines, List.filterMap_filter, funext hothers]
    rw [← hfilter, hlines, List.filterMap_map, hread, List.filterMap_some]
  · intro body' a' init' name' path' r' s' h' hblocks
    rw [edgeLines_render hfeed hends, hlines, Report.edges_eq_of_build h h' hblocks]

/-- A value is dropped behind a statement with some text. -/
def dropBody (text : String) : Body :=
  { blocks :=
      [⟨0, [{ kind := .nop, text := text }],
        some { kind := .drop, targets := [1], unwind := some 2 }⟩,
        ⟨1, [], some { kind := .return }⟩, ⟨2, [], some { kind := .resume }⟩] }

def dropAnalysis : Analysis :=
  ⟨{}, {}, (PointTable.ofPoints (Analysis.bodyPoints (dropBody ""))).freeze, ⟨[]⟩, {}⟩

/-- The text of a statement that imitates an edge is not read as one. -/
theorem dropBody_edges_readBack :
    isLineEnd '\n' = true ∧
    ∃ r, Report.build (dropBody "a\n  \"bb0\" -> \"bb7\"") dropAnalysis none "drop" "" = .ok r ∧
      (edgeLines isLineEnd (render {} r).toList).map readEdge? =
        [some ⟨0, .block 1, .normal⟩, some ⟨0, .block 2, .unwind⟩, some ⟨1, .exit .return, .normal⟩,
          some ⟨2, .exit .resume, .normal⟩] ∧
      ∃ r', Report.build (dropBody "b") dropAnalysis none "drop" "the \"drop\"" = .ok r' ∧
        edgeLines isLineEnd (render { debugInfo := true } r').toList =
          edgeLines isLineEnd (render {} r).toList := by
  have hfeed : isLineEnd '\n' = true := by decide
  obtain ⟨r, hr⟩ :
      ∃ r, Report.build (dropBody "a\n  \"bb0\" -> \"bb7\"") dropAnalysis none "drop" "" = .ok r :=
    Report.exists_build (by decide) (by decide) (by decide) _ _ _
  obtain ⟨r', hr'⟩ :
      ∃ r', Report.build (dropBody "b") dropAnalysis none "drop" "the \"drop\"" = .ok r' :=
    Report.exists_build (by decide) (by decide) (by decide) _ _ _
  obtain ⟨-, hread, -, ⟨edges, hedges, hflatten⟩, hother⟩ :=
    render_edges_readBack hfeed (fun _ h => h) hr {}
  obtain rfl := Except.ok.inj hedges
  exact ⟨hfeed, r, hr, by rw [hread, hflatten]; rfl, r', hr', hother { debugInfo := true } hr' rfl⟩

end BorrowGraph.Dot
