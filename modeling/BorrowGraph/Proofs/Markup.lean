/-
Reading graphs and tables back.

A graph in DOT notation has labels in angle brackets, which hold tables.  Reading one back
takes two steps, each of which looks at one character after the other: finding the labels, with
the nodes that they belong to, and reading the table in a label.

* `Scan`, `labels?`: outside of strings and labels, inside a quoted string, or inside a label,
  with the number of angle brackets that are open;
* `Place`, `table?`: in a table, in a row or in a cell; any tag that does not fit there, and
  any text outside of cells, is refused;
* `Reads`, `IsBalanced`, `Advances`: what parts of a text do, to be put together one after the
  other;
* `IsCellText`: texts that are the content of one cell.
-/
import BorrowGraph.Proofs.AtomSpelling

namespace BorrowGraph.Markup

/-! ### Labels -/

/-- Where a character of a graph stands. -/
inductive Mode where
  | plain
  | quoted
  /-- Behind a backslash in a quoted string. -/
  | escaped
  /-- In a label, with the angle brackets open inside it. -/
  | label (depth : Nat)
  deriving DecidableEq, Repr

/-- What has been found in a graph. -/
structure Scan where
  mode : Mode := .plain
  /-- The string or label that is being read, backwards. -/
  text : List Char := []
  /-- The string that was just read. -/
  last : Option (List Char) := none
  /-- The string in front of the attributes that are being read. -/
  owner : Option (List Char) := none
  /-- The labels with their owners, the last one first. -/
  labels : List (Option (List Char) × List Char) := []
  deriving DecidableEq, Repr

def Scan.step (s : Scan) (c : Char) : Scan :=
  match s.mode with
  | .plain =>
    if c = '"' then { s with mode := .quoted, text := [] }
    else if c = '<' then { s with mode := .label 0, text := [] }
    else if c = '[' then { s with owner := s.last, last := none }
    else if Text.isBlank c then s
    else { s with last := none }
  | .quoted =>
    if c = '"' then { s with mode := .plain, last := some s.text.reverse }
    else if c = '\\' then { s with mode := .escaped, text := c :: s.text }
    else { s with text := c :: s.text }
  | .escaped => { s with mode := .quoted, text := c :: s.text }
  | .label depth =>
    if c = '<' then { s with mode := .label (depth + 1), text := c :: s.text }
    else if c = '>' then
      match depth with
      | 0 => { s with mode := .plain, labels := (s.owner, s.text.reverse) :: s.labels }
      | d + 1 => { s with mode := .label d, text := c :: s.text }
    else { s with text := c :: s.text }

/-- The labels of a graph, each with the name of its node. -/
def labels? (cs : List Char) : Option (List (Option (List Char) × List Char)) :=
  let s := cs.foldl Scan.step {}
  if s.mode = .plain then some s.labels.reverse else none

/-! ### Tables -/

/-- A cell as it is read. -/
structure Cell where
  columns : Nat
  content : List Char
  deriving DecidableEq, Repr

/-- Where a character of a table stands; rows and cells are kept backwards. -/
inductive Place where
  | start
  | inTable (rows : List (List Cell))
  | inRow (rows : List (List Cell)) (cells : List Cell)
  | inCell (rows : List (List Cell)) (cells : List Cell) (columns : Nat) (content : List Char)
  | finished (rows : List (List Cell))
  deriving DecidableEq, Repr

/-- The columns that the opening tag of a cell claims. -/
def columns? (body : List Char) : Option Nat :=
  if body = "td".toList then some 1
  else
    match Text.stripStart? "td colspan=\"".toList body with
    | none => none
    | some rest =>
      if rest.getLast? = some '"' && !rest.dropLast.isEmpty && rest.dropLast.all Char.isDigit then
        some (Nat.ofDigitChars 10 rest.dropLast 0)
      else none

/-- A tag, which must fit the place where it stands. -/
def Place.tag : Place → List Char → Option Place
  | .start, body => if body = "table".toList then some (.inTable []) else none
  | .inTable rows, body =>
    if body = "tr".toList then some (.inRow rows [])
    else if body = "/table".toList then some (.finished rows.reverse)
    else none
  | .inRow rows cells, body =>
    if body = "/tr".toList then some (.inTable (cells.reverse :: rows))
    else (columns? body).map fun n => .inCell rows cells n []
  | .inCell rows cells n content, body =>
    if body = "/td".toList then some (.inRow rows (⟨n, content.reverse⟩ :: cells))
    else if body = "br/".toList then some (.inCell rows cells n ("<br/>".toList.reverse ++ content))
    else none
  | .finished _, _ => none

/-- A character outside of tags; between cells there are only blanks. -/
def Place.char : Place → Char → Option Place
  | .inCell rows cells n content, c => some (.inCell rows cells n (c :: content))
  | p, c => if Text.isBlank c then some p else none

/-- A place, and the tag that is being read there, backwards. -/
def step : Place × Option (List Char) → Char → Option (Place × Option (List Char))
  | (p, none), c =>
    if c = '<' then some (p, some [])
    else if c = '>' then none
    else (p.char c).map fun q => (q, none)
  | (p, some body), c =>
    if c = '<' then none
    else if c = '>' then (p.tag body.reverse).map fun q => (q, none)
    else some (p, some (c :: body))

/-- The rows of a table that is all there is in a text. -/
def table? (cs : List Char) : Option (List (List Cell)) :=
  match cs.foldlM step (.start, none) with
  | some (.finished rows, none) => some rows
  | _ => none

/-- The tables of a graph, each with the name of its node. -/
def tables? (cs : List Char) : Option (List (Option (List Char) × List (List Cell))) := do
  (← labels? cs).mapM fun x => (table? x.2).map fun rows => (x.1, rows)

/-! ### Strings and plain text in a graph -/

/-- The inside of a quoted string: a backslash takes the next character with it. -/
inductive IsQuotedText : List Char → Prop
  | nil : IsQuotedText []
  | char {c : Char} {cs : List Char} (hquote : c ≠ '"') (hbackslash : c ≠ '\\')
      (h : IsQuotedText cs) :
      IsQuotedText (c :: cs)
  | escape {c : Char} {cs : List Char} (h : IsQuotedText cs) : IsQuotedText ('\\' :: c :: cs)

theorem IsQuotedText.append {xs ys : List Char} (hxs : IsQuotedText xs) (hys : IsQuotedText ys) :
    IsQuotedText (xs ++ ys) := by
  induction hxs with
  | nil => exact hys
  | char hquote hbackslash _ ih => exact .char hquote hbackslash ih
  | escape _ ih => exact .escape ih

theorem IsQuotedText.of_forall {cs : List Char} (h : ∀ c ∈ cs, c ≠ '"' ∧ c ≠ '\\') :
    IsQuotedText cs := by
  induction cs with
  | nil => exact .nil
  | cons c cs ih =>
    rw [List.forall_mem_cons] at h
    exact .char h.1.1 h.1.2 (ih h.2)

section Scanning

variable {cs xs ys text : List Char} {last owner : Option (List Char)}
  {labels ls ls' : List (Option (List Char) × List Char)}

theorem IsQuotedText.foldl_step (h : IsQuotedText cs) :
    cs.foldl Scan.step ⟨.quoted, text, last, owner, labels⟩ =
      ⟨.quoted, cs.reverse ++ text, last, owner, labels⟩ := by
  induction h generalizing text with
  | nil => rfl
  | @char c cs hquote hbackslash _ ih =>
    have hstep : Scan.step ⟨.quoted, text, last, owner, labels⟩ c =
        ⟨.quoted, c :: text, last, owner, labels⟩ := by
      simp only [Scan.step, if_neg hquote, if_neg hbackslash]
    rw [List.foldl_cons, hstep, ih, List.reverse_cons, List.append_assoc, List.singleton_append]
  | @escape c cs _ ih =>
    -- Both characters are taken at once, whatever the second one is.
    have hstep : ['\\', c].foldl Scan.step ⟨.quoted, text, last, owner, labels⟩ =
        ⟨.quoted, c :: '\\' :: text, last, owner, labels⟩ := rfl
    rw [show '\\' :: c :: cs = ['\\', c] ++ cs from rfl, List.foldl_append, hstep, ih]
    simp

/-- A part of a graph that begins and ends outside of strings and labels, with the labels in it. -/
def Reads (cs : List Char) (ls : List (Option (List Char) × List Char)) : Prop :=
  ∀ text last owner labels, ∃ text' last' owner',
    cs.foldl Scan.step ⟨.plain, text, last, owner, labels⟩ =
      ⟨.plain, text', last', owner', ls.reverse ++ labels⟩

theorem Reads.nil : Reads [] [] :=
  fun text last owner _ => ⟨text, last, owner, rfl⟩

theorem Reads.append (hxs : Reads xs ls) (hys : Reads ys ls') : Reads (xs ++ ys) (ls ++ ls') := by
  intro text last owner labels
  obtain ⟨text₁, last₁, owner₁, h₁⟩ := hxs text last owner labels
  obtain ⟨text₂, last₂, owner₂, h₂⟩ := hys text₁ last₁ owner₁ (ls.reverse ++ labels)
  refine ⟨text₂, last₂, owner₂, ?_⟩
  rw [List.foldl_append, h₁, h₂, List.reverse_append, List.append_assoc]

theorem labels?_of_reads (h : Reads cs ls) : labels? cs = some ls := by
  obtain ⟨text, last, owner, hcs⟩ := h [] none none []
  rw [labels?, hcs]
  simp

theorem Reads.of_forall (h : ∀ c ∈ cs, c ≠ '"' ∧ c ≠ '<') : Reads cs [] := by
  induction cs with
  | nil => exact .nil
  | cons c cs ih =>
    rw [List.forall_mem_cons] at h
    have hfirst : Reads [c] [] := by
      intro text last owner labels
      rw [List.foldl_cons, List.foldl_nil]
      simp only [Scan.step, if_neg h.1.1, if_neg h.1.2]
      split
      · exact ⟨_, _, _, rfl⟩
      · split
        · exact ⟨_, _, _, rfl⟩
        · exact ⟨_, _, _, rfl⟩
    exact hfirst.append (ih h.2)

theorem Reads.of_not_mem (hquote : '"' ∉ cs) (hopen : '<' ∉ cs) : Reads cs [] :=
  .of_forall fun _ hc => ⟨ne_of_mem_of_not_mem hc hquote, ne_of_mem_of_not_mem hc hopen⟩

theorem Reads.quoted (h : IsQuotedText cs) : Reads ('"' :: cs ++ ['"']) [] := by
  intro text last owner labels
  have hopen : Scan.step ⟨.plain, text, last, owner, labels⟩ '"' =
      ⟨.quoted, [], last, owner, labels⟩ := rfl
  rw [List.cons_append, List.foldl_cons, hopen, List.foldl_append, h.foldl_step]
  exact ⟨_, _, _, rfl⟩

/-! ### Labels in a graph -/

/-- A part of a label that closes all the brackets that it opens. -/
def IsBalanced (cs : List Char) : Prop :=
  ∀ depth text last owner labels,
    cs.foldl Scan.step ⟨.label depth, text, last, owner, labels⟩ =
      ⟨.label depth, cs.reverse ++ text, last, owner, labels⟩

theorem IsBalanced.nil : IsBalanced [] :=
  fun _ _ _ _ _ => rfl

theorem IsBalanced.append (hxs : IsBalanced xs) (hys : IsBalanced ys) : IsBalanced (xs ++ ys) := by
  intro depth text last owner labels
  rw [List.foldl_append, hxs, hys, List.reverse_append, List.append_assoc]

theorem IsBalanced.flatMap {α : Type} {f : α → List Char} {as : List α}
    (h : ∀ a ∈ as, IsBalanced (f a)) : IsBalanced (as.flatMap f) := by
  induction as with
  | nil => exact .nil
  | cons a as ih =>
    rw [List.forall_mem_cons] at h
    exact h.1.append (ih h.2)

theorem IsBalanced.of_forall (h : ∀ c ∈ cs, c ≠ '<' ∧ c ≠ '>') : IsBalanced cs := by
  induction cs with
  | nil => exact .nil
  | cons c cs ih =>
    rw [List.forall_mem_cons] at h
    have hfirst : IsBalanced [c] := by
      intro depth text last owner labels
      rw [List.foldl_cons, List.foldl_nil]
      simp only [Scan.step, if_neg h.1.1, if_neg h.1.2]
      rfl
    exact hfirst.append (ih h.2)

theorem IsBalanced.bracket (h : IsBalanced cs) : IsBalanced ('<' :: cs ++ ['>']) := by
  intro depth text last owner labels
  have hopen : Scan.step ⟨.label depth, text, last, owner, labels⟩ '<' =
      ⟨.label (depth + 1), '<' :: text, last, owner, labels⟩ := rfl
  have hclose : ['>'].foldl Scan.step
      ⟨.label (depth + 1), cs.reverse ++ '<' :: text, last, owner, labels⟩ =
      ⟨.label depth, '>' :: (cs.reverse ++ '<' :: text), last, owner, labels⟩ := rfl
  rw [List.cons_append, List.foldl_cons, hopen, List.foldl_append, h, hclose]
  simp

/-- A node with a label in angle brackets. -/
theorem Reads.node {name label : List Char} (hname : IsQuotedText name)
    (hlabel : IsBalanced label) :
    Reads ("  \"".toList ++ (name ++ ("\" [shape=\"plaintext\", label=<".toList ++
      (label ++ ">];\n".toList)))) [(some name, label)] := by
  intro text last owner labels
  have hopen : "  \"".toList.foldl Scan.step ⟨.plain, text, last, owner, labels⟩ =
      ⟨.quoted, [], last, owner, labels⟩ := by
    simp [Scan.step, Text.isBlank]
  have hattributes : "\" [shape=\"plaintext\", label=<".toList.foldl Scan.step
      ⟨.quoted, name.reverse ++ [], last, owner, labels⟩ =
      ⟨.label 0, [], none, some name, labels⟩ := by
    simp [Scan.step, Text.isBlank]
  have hclose : ">];\n".toList.foldl Scan.step
      ⟨.label 0, label.reverse ++ [], none, some name, labels⟩ =
      ⟨.plain, label.reverse, none, some name, (some name, label) :: labels⟩ := by
    simp [Scan.step, Text.isBlank]
  rw [List.foldl_append, hopen, List.foldl_append, hname.foldl_step, List.foldl_append, hattributes,
    List.foldl_append, hlabel, hclose]
  exact ⟨_, _, _, rfl⟩

end Scanning

/-! ### Contents of cells -/

/-- The content of a cell: characters other than angle brackets, and line breaks. -/
inductive IsCellText : List Char → Prop
  | nil : IsCellText []
  | char {c : Char} {cs : List Char} (hopen : c ≠ '<') (hclose : c ≠ '>') (h : IsCellText cs) :
      IsCellText (c :: cs)
  | lineBreak {cs : List Char} (h : IsCellText cs) : IsCellText ("<br/>".toList ++ cs)

namespace IsCellText

variable {xs ys : List Char}

theorem append (hxs : IsCellText xs) (hys : IsCellText ys) : IsCellText (xs ++ ys) := by
  induction hxs with
  | nil => exact hys
  | char hopen hclose _ ih => exact .char hopen hclose ih
  | lineBreak _ ih =>
    rw [List.append_assoc]
    exact .lineBreak ih

theorem of_forall (h : ∀ c ∈ xs, c ≠ '<' ∧ c ≠ '>') : IsCellText xs := by
  induction xs with
  | nil => exact .nil
  | cons c xs ih =>
    rw [List.forall_mem_cons] at h
    exact .char h.1.1 h.1.2 (ih h.2)

theorem flatMap {α : Type} {f : α → List Char} {as : List α} (h : ∀ a ∈ as, IsCellText (f a)) :
    IsCellText (as.flatMap f) := by
  induction as with
  | nil => exact .nil
  | cons a as ih =>
    rw [List.forall_mem_cons] at h
    exact append h.1 (ih h.2)

theorem isBalanced (h : IsCellText xs) : IsBalanced xs := by
  induction h with
  | nil => exact .nil
  | @char c xs hopen hclose _ ih =>
    have hfirst : IsBalanced [c] := .of_forall (by simp [hopen, hclose])
    exact hfirst.append ih
  | lineBreak _ ih =>
    have hbreak : IsBalanced ('<' :: "br/".toList ++ ['>']) :=
      IsBalanced.bracket (.of_forall (by simp))
    exact hbreak.append ih

end IsCellText

/-! ### Parts of a table -/

section Tables

variable {xs ys : List Char} {p q r : Place} {rows : List (List Cell)} {cells : List Cell}

/-- A part of a table that begins and ends outside of tags leads from one place to another. -/
def Advances (cs : List Char) (p q : Place) : Prop :=
  cs.foldlM step (p, none) = some (q, none)

theorem Advances.nil (p : Place) : Advances [] p p := rfl

theorem Advances.append (hxs : Advances xs p q) (hys : Advances ys q r) :
    Advances (xs ++ ys) p r := by
  rw [Advances, List.foldlM_append, hxs]
  exact hys

theorem table?_of_advances (h : Advances xs .start (.finished rows)) : table? xs = some rows := by
  rw [table?, h]

-- Tags that are closed in another order, and text that is no tag, are not read.
example : table? "<table><tr><td>a</tr></td></table>".toList = none := by decide
example : table? "<table><tr><td>a < b</td></tr></table>".toList = none := by decide

/-- The characters of a tag are collected. -/
theorem foldlM_step_tag {body : List Char} (h : ∀ c ∈ body, c ≠ '<' ∧ c ≠ '>') (p : Place)
    (read : List Char) :
    body.foldlM step (p, some read) = some (p, some (body.reverse ++ read)) := by
  induction body generalizing read with
  | nil => rfl
  | cons c body ih =>
    rw [List.forall_mem_cons] at h
    have hstep : step (p, some read) c = some (p, some (c :: read)) := by
      rw [step, if_neg h.1.1, if_neg h.1.2]
    rw [List.foldlM_cons, hstep, Option.bind_eq_bind, Option.bind_some, ih h.2]
    simp

theorem Advances.tag {body : List Char} (h : ∀ c ∈ body, c ≠ '<' ∧ c ≠ '>')
    (htag : p.tag body = some q) : Advances ('<' :: body ++ ['>']) p q := by
  have hopen : step (p, none) '<' = some (p, some []) := rfl
  have hclose : step (p, some (body.reverse ++ [])) '>' = some (q, none) := by
    rw [step, if_neg (by decide), if_pos rfl, List.append_nil, List.reverse_reverse, htag]
    rfl
  rw [Advances, List.cons_append, List.foldlM_cons, hopen, Option.bind_eq_bind, Option.bind_some,
    List.foldlM_append, foldlM_step_tag h, Option.bind_eq_bind, Option.bind_some, List.foldlM_cons,
      hclose]
  rfl

theorem Advances.char {c : Char} (hopen : c ≠ '<') (hclose : c ≠ '>') (hchar : p.char c = some q) :
    Advances [c] p q := by
  rw [Advances, List.foldlM_cons, step, if_neg hopen, if_neg hclose, hchar]
  rfl

/-- The content of a cell is read as it is. -/
theorem Advances.content {cs : List Char} (h : IsCellText cs) (n : Nat) (content : List Char) :
    Advances cs (.inCell rows cells n content) (.inCell rows cells n (cs.reverse ++ content)) := by
  induction h generalizing content with
  | nil => exact .nil _
  | @char c cs hopen hclose _ ih =>
    have hfirst :
        Advances [c] (.inCell rows cells n content) (.inCell rows cells n (c :: content)) :=
      .char hopen hclose rfl
    have hall := hfirst.append (ih (c :: content))
    rwa [List.reverse_cons, List.append_assoc]
  | @lineBreak cs _ ih =>
    have hbreak : Advances ('<' :: "br/".toList ++ ['>']) (.inCell rows cells n content)
        (.inCell rows cells n ("<br/>".toList.reverse ++ content)) :=
      .tag (by simp) rfl
    have hall := hbreak.append (ih ("<br/>".toList.reverse ++ content))
    rwa [List.reverse_append, List.append_assoc]

theorem columns?_td : columns? "td".toList = some 1 := rfl

theorem columns?_colspan (n : Nat) :
    columns? ("td colspan=\"".toList ++ (Nat.toDigits 10 n ++ ['"'])) = some n := by
  have hstart : Text.stripStart? "td colspan=\"".toList
      ("td colspan=\"".toList ++ (Nat.toDigits 10 n ++ ['"'])) =
        some (Nat.toDigits 10 n ++ ['"']) :=
    Spelling.stripStart?_eq_some_iff.mpr rfl
  have hdigits : (Nat.toDigits 10 n).all Char.isDigit = true :=
    List.all_eq_true.mpr fun c hc => Nat.isDigit_of_mem_toDigits (by decide) (by decide) hc
  have hsome : (Nat.toDigits 10 n).isEmpty = false := by
    simp [Nat.toDigits_ne_nil]
  rw [columns?, if_neg (by simp), hstart]
  simp only [List.getLast?_concat, List.dropLast_concat, hdigits, hsome,
    Nat.ofDigitChars_ten_toDigits]
  rfl

end Tables

end BorrowGraph.Markup
