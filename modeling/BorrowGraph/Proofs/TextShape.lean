/-
The shape of fact files.

A text is cut into lines, a line into fields, and a field is freed from the blanks and the
quotes around it.  Each of these steps is described here by what the pieces look like, and the
functions are shown to find the only pieces that look like it:

* `HasLines`, `hasLines_lines`, `HasLines.unique`: lines and what ends them;
* `HasFields`, `hasFields_iff`: fields between tabs;
* `IsTrimmed`, `isTrimmed_iff`: a text without the blanks around it;
* `IsUnquoted`, `unquote_eq_iff`: a field without blanks and quotes.
-/
import BorrowGraph.Facts.Source
import Mathlib.Data.List.TakeWhile

namespace BorrowGraph.Text

/-! ### Lines -/

/-- What ends a line: a carriage return with a line feed, or one of the characters that end
lines. -/
inductive IsBreak : List Char → Prop where
  | pair : IsBreak ['\r', '\n']
  | single {c : Char} (hc : isLineEnd c = true) : IsBreak [c]

/-- The lines of a text, without their ends.  The last line need not have an end, unless it is
empty, and a carriage return ends a line by itself only if no line feed follows. -/
inductive HasLines : List Char → List (List Char) → Prop where
  | nil : HasLines [] []
  | last {line : List Char} (hne : line ≠ []) (hline : ∀ c ∈ line, isLineEnd c = false) :
      HasLines line [line]
  | ended {line ending rest : List Char} {lines : List (List Char)}
      (hline : ∀ c ∈ line, isLineEnd c = false) (hending : IsBreak ending)
      (hwhole : ending = ['\r'] → rest.head? ≠ some '\n') (hrest : HasLines rest lines) :
      HasLines (line ++ ending ++ rest) (line :: lines)

theorem lines_append {line : List Char} (hline : ∀ c ∈ line, isLineEnd c = false) {e : Char}
    (he : isLineEnd e = true) (rest : List Char) :
    lines (line ++ e :: rest) = line :: lines rest := by
  induction line with
  | nil => rw [List.nil_append, lines, if_pos he]
  | cons c line ih =>
    rw [List.forall_mem_cons] at hline
    rw [List.cons_append, lines, if_neg (by simp [hline.1]), ih hline.2, consLine]

theorem lines_of_unbroken {line : List Char} (hne : line ≠ [])
    (hline : ∀ c ∈ line, isLineEnd c = false) : lines line = [line] := by
  induction line with
  | nil => exact absurd rfl hne
  | cons c line ih =>
    rw [List.forall_mem_cons] at hline
    rw [lines, if_neg (by simp [hline.1])]
    by_cases hnil : line = []
    · rw [hnil, lines, consLine]
    · rw [ih hnil hline.2, consLine]

theorem unifyLineEnds_append {line : List Char} (hline : ∀ c ∈ line, isLineEnd c = false)
    (rest : List Char) : unifyLineEnds (line ++ rest) = line ++ unifyLineEnds rest := by
  induction line with
  | nil => rfl
  | cons c line ih =>
    rw [List.forall_mem_cons] at hline
    have hc : c ≠ '\r' := by
      rintro rfl
      exact absurd hline.1 (by decide)
    rw [List.cons_append, unifyLineEnds.eq_4 _ _ (fun _ h _ => hc h) hc, ih hline.2,
      List.cons_append]

/-- What ends a line is unified to one character that does. -/
theorem unifyLineEnds_break {ending rest : List Char} (hending : IsBreak ending)
    (hwhole : ending = ['\r'] → rest.head? ≠ some '\n') :
    ∃ e, isLineEnd e = true ∧ unifyLineEnds (ending ++ rest) = e :: unifyLineEnds rest := by
  cases hending with
  | pair => exact ⟨'\n', by decide, rfl⟩
  | @single c hc =>
    by_cases hcr : c = '\r'
    · subst hcr
      refine ⟨'\n', by decide, unifyLineEnds.eq_3 rest ?_⟩
      rintro rest' rfl
      exact hwhole rfl rfl
    · exact ⟨c, hc, unifyLineEnds.eq_4 c rest (fun _ h _ => hcr h) hcr⟩

theorem lines_of_hasLines {cs : List Char} {ls : List (List Char)} (h : HasLines cs ls) :
    lines (unifyLineEnds cs) = ls := by
  induction h with
  | nil => rfl
  | @last line hne hline =>
    have hunify := unifyLineEnds_append hline []
    rw [List.append_nil] at hunify
    rw [hunify, unifyLineEnds, List.append_nil, lines_of_unbroken hne hline]
  | ended hline hending hwhole hrest ih =>
    obtain ⟨e, he, hunify⟩ := unifyLineEnds_break hending hwhole
    rw [List.append_assoc, unifyLineEnds_append hline, hunify, lines_append hline he, ih]

theorem HasLines.cons {c : Char} (hc : isLineEnd c = false) {cs : List Char}
    {ls : List (List Char)} (h : HasLines cs ls) : HasLines (c :: cs) (consLine c ls) := by
  cases h with
  | nil => exact .last (List.cons_ne_nil c []) (by simp [hc])
  | last hne hline => exact .last (List.cons_ne_nil c _) (List.forall_mem_cons.mpr ⟨hc, hline⟩)
  | ended hline hending hwhole hrest =>
    exact .ended (List.forall_mem_cons.mpr ⟨hc, hline⟩) hending hwhole hrest

theorem HasLines.empty {ending rest : List Char} {ls : List (List Char)} (hending : IsBreak ending)
    (hwhole : ending = ['\r'] → rest.head? ≠ some '\n') (hrest : HasLines rest ls) :
    HasLines (ending ++ rest) ([] :: ls) := by
  have hline : ∀ c ∈ ([] : List Char), isLineEnd c = false := by simp
  exact HasLines.ended hline hending hwhole hrest

theorem hasLines_lines (cs : List Char) : HasLines cs (lines (unifyLineEnds cs)) := by
  -- The cases are those of the ends of lines: none, a pair, a lone carriage return, and all
  -- other characters.
  fun_induction unifyLineEnds cs with
  | case1 => exact .nil
  | case2 cs ih => exact .empty .pair (by simp) ih
  | case3 cs hcs ih =>
    refine .empty (.single (by decide)) (fun _ hhead => ?_) ih
    obtain ⟨rest, rfl⟩ := List.head?_eq_some_iff.mp hhead
    exact hcs rest rfl
  | case4 c cs hpair hcr ih =>
    rw [lines]
    split
    · rename_i hc
      refine .empty (.single hc) (fun hsingle => ?_) ih
      exact absurd (List.cons.inj hsingle).1 hcr
    · rename_i hc
      exact ih.cons (Bool.eq_false_iff.mpr hc)

theorem HasLines.unique {cs : List Char} {ls ls' : List (List Char)} (h : HasLines cs ls)
    (h' : HasLines cs ls') : ls = ls' := by
  rw [← lines_of_hasLines h, lines_of_hasLines h']

theorem HasLines.not_isLineEnd {cs : List Char} {ls : List (List Char)} (h : HasLines cs ls)
    {line : List Char} (hline : line ∈ ls) {c : Char} (hc : c ∈ line) : isLineEnd c = false := by
  induction h with
  | nil => cases hline
  | last hne hlast => exact hlast c (List.mem_singleton.mp hline ▸ hc)
  | ended hfirst hending hwhole hrest ih =>
    rcases List.mem_cons.mp hline with rfl | hline
    · exact hfirst c hc
    · exact ih hline

/-! ### Fields -/

/-- The fields of a line, with tabs between them. -/
structure HasFields (line : List Char) (fields : List (List Char)) : Prop where
  ne_nil : fields ≠ []
  no_tab : ∀ f ∈ fields, '\t' ∉ f
  join : ['\t'].intercalate fields = line

theorem splitAtChar_eq_splitOn (sep : Char) (cs : List Char) :
    splitAtChar sep cs = cs.splitOn sep := by
  induction cs with
  | nil => simp [splitAtChar, List.splitOn_nil]
  | cons c cs ih =>
    rw [splitAtChar, ih, List.splitOn_cons_eq_if_modifyHead]
    rcases hsplit : cs.splitOn sep with _ | ⟨piece, pieces⟩
    · exact absurd hsplit (List.splitOn_ne_nil sep cs)
    · simp [consFirst]

theorem not_mem_of_mem_splitAtChar {sep : Char} {cs f : List Char}
    (h : f ∈ splitAtChar sep cs) : sep ∉ f := by
  induction cs generalizing f with
  | nil => simp [List.mem_singleton.mp h]
  | cons c cs ih =>
    rw [splitAtChar] at h
    split at h
    · rcases List.mem_cons.mp h with rfl | h
      · exact List.not_mem_nil
      · exact ih h
    · rename_i hc
      rcases hsplit : splitAtChar sep cs with _ | ⟨piece, pieces⟩
      · rw [splitAtChar_eq_splitOn] at hsplit
        exact absurd hsplit (List.splitOn_ne_nil sep cs)
      · rw [hsplit] at h ih
        rcases List.mem_cons.mp h with rfl | h
        · rw [List.mem_cons, not_or]
          exact ⟨Ne.symm hc, ih List.mem_cons_self⟩
        · exact ih (List.mem_cons_of_mem _ h)

/-- A line has exactly one list of fields. -/
theorem hasFields_iff {line : List Char} {fields : List (List Char)} :
    HasFields line fields ↔ splitAtChar '\t' line = fields := by
  constructor
  · rintro ⟨hne, htab, rfl⟩
    rw [splitAtChar_eq_splitOn, List.splitOn_intercalate _ htab hne]
  · rintro rfl
    refine ⟨?_, fun f hf => not_mem_of_mem_splitAtChar hf, ?_⟩
    · rw [splitAtChar_eq_splitOn]
      exact List.splitOn_ne_nil _ _
    · rw [splitAtChar_eq_splitOn, List.intercalate_splitOn]

theorem mem_intercalate_of_mem {sep : Char} {fields : List (List Char)} {f : List Char}
    (hf : f ∈ fields) {c : Char} (hc : c ∈ f) : c ∈ [sep].intercalate fields := by
  induction fields with
  | nil => cases hf
  | cons g fields ih =>
    rcases fields with _ | ⟨g', fields⟩
    · rw [List.intercalate_singleton, ← List.mem_singleton.mp hf]
      exact hc
    · rw [List.intercalate_cons_cons]
      rcases List.mem_cons.mp hf with rfl | hf
      · simp [hc]
      · exact List.mem_append_right _ (ih hf)

theorem of_mem_intercalate {sep : Char} {fields : List (List Char)} {c : Char}
    (hc : c ∈ [sep].intercalate fields) : c = sep ∨ ∃ f ∈ fields, c ∈ f := by
  induction fields with
  | nil => cases hc
  | cons g fields ih =>
    rcases fields with _ | ⟨g', fields⟩
    · rw [List.intercalate_singleton] at hc
      exact .inr ⟨g, List.mem_cons_self, hc⟩
    · rw [List.intercalate_cons_cons, List.mem_append, List.mem_append, List.mem_singleton] at hc
      rcases hc with (hc | hc) | hc
      · exact .inr ⟨g, List.mem_cons_self, hc⟩
      · exact .inl hc
      · refine (ih hc).imp_right ?_
        rintro ⟨f, hf, hcf⟩
        exact ⟨f, List.mem_cons_of_mem _ hf, hcf⟩

/-! ### Blanks -/

/-- A text without the blanks around it. -/
structure IsTrimmed (cs body : List Char) : Prop where
  around : ∃ before after, cs = before ++ body ++ after ∧ (∀ c ∈ before, isBlank c = true) ∧
    ∀ c ∈ after, isBlank c = true
  head : ∀ c ∈ body.head?, isBlank c = false
  last : ∀ c ∈ body.getLast?, isBlank c = false

theorem dropWhile_of_head {p : Char → Bool} {cs : List Char} (h : ∀ c ∈ cs.head?, p c = false) :
    cs.dropWhile p = cs := by
  cases cs with
  | nil => rfl
  | cons c cs => rw [List.dropWhile_cons, if_neg (by simp [h c rfl])]

theorem head_dropWhile {p : Char → Bool} (cs : List Char) :
    ∀ c ∈ (cs.dropWhile p).head?, p c = false := by
  intro c hc
  have hhead := List.head?_dropWhile_not p cs
  rw [Option.mem_def.mp hc] at hhead
  exact hhead

/-- A text is trimmed in exactly one way. -/
theorem isTrimmed_iff {cs body : List Char} : IsTrimmed cs body ↔ trim cs = body := by
  constructor
  · rintro ⟨⟨before, after, rfl, hbefore, hafter⟩, hhead, hlast⟩
    rw [trim, trimBy, List.append_assoc, List.dropWhile_append_of_pos hbefore]
    rcases body with _ | ⟨b, body⟩
    · rw [List.nil_append, List.dropWhile_eq_nil_iff.mpr hafter]
      rfl
    · have hhead' : ∀ c ∈ (b :: body ++ after).head?, isBlank c = false := hhead
      have hafter' : ∀ c ∈ after.reverse, isBlank c = true := by
        simpa using hafter
      have hlast' : ∀ c ∈ (b :: body).reverse.head?, isBlank c = false := by
        rw [List.head?_reverse]
        exact hlast
      rw [dropWhile_of_head hhead', List.reverse_append, List.dropWhile_append_of_pos hafter',
        dropWhile_of_head hlast', List.reverse_reverse]
  · rintro rfl
    rw [trim, trimBy]
    refine ⟨⟨cs.takeWhile isBlank, ((cs.dropWhile isBlank).reverse.takeWhile isBlank).reverse, ?_,
      ?_, ?_⟩, ?_, ?_⟩
    · rw [List.append_assoc, ← List.reverse_append, List.takeWhile_append_dropWhile,
        List.reverse_reverse, List.takeWhile_append_dropWhile]
    · exact fun c hc => List.mem_takeWhile_imp hc
    · exact fun c hc => List.mem_takeWhile_imp (List.mem_reverse.mp hc)
    · -- What is cut off at the end leaves the beginning as it is.
      intro c hc
      refine head_dropWhile (p := isBlank) cs c ?_
      obtain ⟨rest, hrest⟩ := List.dropWhile_suffix isBlank (l := (cs.dropWhile isBlank).reverse)
      rw [← List.reverse_reverse (cs.dropWhile isBlank), ← hrest, List.reverse_append,
        List.head?_append, Option.mem_def.mp hc]
      rfl
    · intro c hc
      rw [List.getLast?_reverse] at hc
      exact head_dropWhile (p := isBlank) _ c hc

theorem isTrimmed_self {cs : List Char} (h : ∀ c ∈ cs, isBlank c = false) : IsTrimmed cs cs where
  around := ⟨[], [], by simp, by simp, by simp⟩
  head := fun c hc => h c (List.mem_of_mem_head? hc)
  last := fun c hc => h c (List.mem_of_mem_getLast? hc)

/-- What ends a line is blank. -/
theorem isBlank_of_isLineEnd {c : Char} (h : isLineEnd c = true) : isBlank c = true := by
  simp only [isLineEnd, Bool.or_eq_true, Bool.and_eq_true, decide_eq_true_eq, beq_iff_eq] at h
  simp only [isBlank, Bool.or_eq_true, Bool.and_eq_true, decide_eq_true_eq, beq_iff_eq]
  omega

theorem trim_isEmpty_iff {line : List Char} :
    (trim line).isEmpty = true ↔ ∀ c ∈ line, isBlank c = true := by
  rw [List.isEmpty_iff, ← isTrimmed_iff]
  constructor
  · rintro ⟨⟨before, after, rfl, hbefore, hafter⟩, -, -⟩ c hc
    rw [List.append_nil, List.mem_append] at hc
    exact hc.elim (hbefore c) (hafter c)
  · intro h
    exact ⟨⟨line, [], by simp, h, by simp⟩, by simp, by simp⟩

/-! ### Quotes -/

/-- A text without one pair of double quotes around it, if there is one. -/
inductive IsUnquoted : List Char → List Char → Prop where
  | quoted (inner : List Char) : IsUnquoted ('"' :: (inner ++ ['"'])) inner
  | plain {body : List Char} (h : ∀ inner, body ≠ '"' :: (inner ++ ['"'])) : IsUnquoted body body

theorem unquote_of_trim {cs body inner : List Char} (htrim : trim cs = body)
    (h : IsUnquoted body inner) : FactStore.unquote cs = inner := by
  cases h with
  | quoted inner => simp [FactStore.unquote, htrim]
  | plain h =>
    rw [FactStore.unquote, htrim]
    split
    · rename_i rest
      split
      · rename_i inner hrest
        have hwhole := congrArg List.reverse hrest
        rw [List.reverse_reverse, List.reverse_cons] at hwhole
        exact absurd (congrArg _ hwhole) (h inner.reverse)
      · rfl
    · rfl

theorem exists_isUnquoted (body : List Char) : ∃ inner, IsUnquoted body inner := by
  by_cases h : ∃ inner, body = '"' :: (inner ++ ['"'])
  · obtain ⟨inner, rfl⟩ := h
    exact ⟨inner, .quoted inner⟩
  · exact ⟨body, .plain fun inner hbody => h ⟨inner, hbody⟩⟩

/-- A field is freed from blanks and quotes in exactly one way. -/
theorem unquote_eq_iff {cs inner : List Char} :
    FactStore.unquote cs = inner ↔ ∃ body, IsTrimmed cs body ∧ IsUnquoted body inner := by
  constructor
  · rintro rfl
    obtain ⟨inner, hinner⟩ := exists_isUnquoted (trim cs)
    rw [unquote_of_trim rfl hinner]
    exact ⟨trim cs, isTrimmed_iff.mpr rfl, hinner⟩
  · rintro ⟨body, htrim, hinner⟩
    exact unquote_of_trim (isTrimmed_iff.mp htrim) hinner

end BorrowGraph.Text
