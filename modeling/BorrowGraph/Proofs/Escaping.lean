/-
Escaped texts can be read back.

Texts are escaped in two ways, for labels and for quoted strings.  Each way has a table of what
stands for which character, and a text is escaped one character at a time.  Going through the
table instead, and replacing one character after the other in the whole text, gives the same:
the tables are in such an order that no replacement touches what an earlier one has put into
the text (`IsCode.untouched`).

* `replaceAll`, `replaceInTurn`, `replaceInTurn_eq`: replacements in whole texts;
* `restore`, `restore_escapeWith`: an escaped text is read back from left to right;
* `IsLabelText`: where the characters with a meaning of their own stand in a label;
* `quoted?`: the inside of a quoted string, up to the quote that ends it;
* `escapes_lossless`: what holds of both ways.
-/
import BorrowGraph.Proofs.OwnerTables
import BorrowGraph.Proofs.RenderedTables
import Mathlib.Data.List.Infix

namespace BorrowGraph.Text

/-! ### Replacements in whole texts -/

/-- Put a text in the place of each occurrence of another one, found from left to right. -/
def replaceAll (old new cs : List Char) : List Char :=
  join new (splitAtText old cs)

/-- Make the replacements of a table in turn, each in the whole text that the one before has
left. -/
def replaceInTurn (table : List (Char × List Char)) (cs : List Char) : List Char :=
  table.foldl (fun cs entry => replaceAll [entry.1] entry.2 cs) cs

/-- What stands for a character. -/
def standIn (table : List (Char × List Char)) (c : Char) : List Char :=
  (Assoc.get? c table).getD [c]

/-- A table of characters and what stands for them, from which each text can be read back. -/
structure IsCode (table : List (Char × List Char)) : Prop where
  keys : (table.map Prod.fst).Nodup
  /-- No replacement touches what an earlier one puts into a text. -/
  untouched : table.Pairwise fun earlier later => later.1 ∉ earlier.2
  /-- What stands for a character begins with a character that does not stand for itself. -/
  begins : ∀ entry ∈ table, ∃ c ∈ table.map Prod.fst, entry.2.head? = some c
  apart : table.Pairwise fun entry entry' => ¬ entry.2 <+: entry'.2 ∧ ¬ entry'.2 <+: entry.2

section Replacing

variable {table : List (Char × List Char)} {f : Char → List Char} {c : Char}

theorem join_cons {sep piece : List Char} {pieces : List (List Char)} (h : pieces ≠ []) :
    join sep (piece :: pieces) = piece ++ sep ++ join sep pieces := by
  obtain ⟨first, rest, rfl⟩ := List.exists_cons_of_ne_nil h
  rfl

theorem join_consFirst {sep : List Char} {pieces : List (List Char)} (h : pieces ≠ []) (c : Char) :
    join sep (consFirst c pieces) = c :: join sep pieces := by
  obtain ⟨first, rest, rfl⟩ := List.exists_cons_of_ne_nil h
  rcases rest with _ | ⟨second, rest⟩
  · rfl
  · rfl

theorem splitAfter_ne_nil (sep : List Char) (skip : Nat) (cs : List Char) :
    splitAfter sep skip cs ≠ [] := by
  induction cs generalizing skip with
  | nil => simp [splitAfter]
  | cons c cs ih =>
    rcases skip with _ | skip
    · rw [splitAfter]
      split
      · simp
      · obtain ⟨first, rest, hpieces⟩ := List.exists_cons_of_ne_nil (ih 0)
        simp [hpieces, consFirst]
    · exact ih skip

/-- Replacing one character looks at each character by itself. -/
theorem replaceAll_singleton (c : Char) (new cs : List Char) :
    replaceAll [c] new cs = cs.flatMap fun x => if x = c then new else [x] := by
  rw [replaceAll, splitAtText]
  induction cs with
  | nil => rfl
  | cons x cs ih =>
    rw [splitAfter, List.flatMap_cons]
    by_cases hx : x = c
    · rw [if_pos (by simp [hx]), if_pos hx, join_cons (splitAfter_ne_nil _ _ _), List.nil_append]
      exact congrArg (new ++ ·) ih
    · rw [if_neg (by simp [Ne.symm hx]), if_neg hx, join_consFirst (splitAfter_ne_nil _ _ _), ih,
        List.singleton_append]

/-- A replacement in an escaped text only changes what stands for its character, if the
character stood for itself and stands for nothing else. -/
theorem replaceAll_escapeWith (hself : f c = [c]) (hfree : ∀ x, x ≠ c → c ∉ f x)
    (new cs : List Char) :
    replaceAll [c] new (escapeWith f cs) = escapeWith (fun x => if x = c then new else f x) cs := by
  rw [replaceAll_singleton, escapeWith, List.flatMap_assoc, escapeWith]
  refine List.flatMap_congr fun x _ => ?_
  by_cases hx : x = c
  · simp [hx, hself]
  · rw [if_neg hx]
    have hkept : ∀ y ∈ f x, (if y = c then new else [y]) = [y] := fun y hy =>
      if_neg (ne_of_mem_of_not_mem hy (hfree x hx))
    rw [List.flatMap_congr hkept, List.flatMap_singleton']

theorem replaceInTurn_escapeWith (hkeys : (table.map Prod.fst).Nodup)
    (huntouched : table.Pairwise fun earlier later => later.1 ∉ earlier.2)
    (hf : ∀ key ∈ table.map Prod.fst, f key = [key] ∧ ∀ x, x ≠ key → key ∉ f x) (cs : List Char) :
    replaceInTurn table (escapeWith f cs) =
      escapeWith (fun x => (Assoc.get? x table).getD (f x)) cs := by
  -- The map `f` is what the replacements made so far put for each character.
  induction table generalizing f with
  | nil => rfl
  | cons entry table ih =>
    obtain ⟨c, new⟩ := entry
    rw [List.map_cons, List.nodup_cons] at hkeys
    rw [List.pairwise_cons] at huntouched
    rw [List.map_cons, List.forall_mem_cons] at hf
    rw [replaceInTurn, List.foldl_cons, replaceAll_escapeWith hf.1.1 hf.1.2]
    refine (ih hkeys.2 huntouched.2 fun key hkey => ?_).trans ?_
    · -- The later keys still stand for themselves, and for nothing else.
      have hne : key ≠ c := ne_of_mem_of_not_mem hkey hkeys.1
      refine ⟨by rw [if_neg hne]; exact (hf.2 key hkey).1, fun x hx => ?_⟩
      split
      · obtain ⟨entry, hentry, rfl⟩ := List.mem_map.mp hkey
        exact huntouched.1 entry hentry
      · exact (hf.2 key hkey).2 x hx
    · -- The keys of the table are distinct, so looking up in the rest cannot find the first one
      -- again.
      congr 1
      funext x
      rw [Assoc.get?]
      by_cases hx : c = x
      · have hnone : Assoc.get? x table = none := by
          rw [Option.eq_none_iff_forall_ne_some]
          intro value hvalue
          rw [Assoc.get?_eq_some_iff hkeys.2] at hvalue
          exact hkeys.1 (List.mem_map.mpr ⟨_, hvalue, hx.symm⟩)
        simp [hx, hnone]
      · simp [hx, Ne.symm hx]

/-- Replacing in turn gives each character what stands for it. -/
theorem replaceInTurn_eq (h : IsCode table) (cs : List Char) :
    replaceInTurn table cs = escapeWith (standIn table) cs := by
  have hself := replaceInTurn_escapeWith (f := fun c => [c]) h.keys h.untouched
    (fun key _ => ⟨rfl, fun x hx => by simpa using Ne.symm hx⟩) cs
  rwa [escapeWith, List.flatMap_singleton'] at hself

end Replacing

/-! ### Reading back -/

/-- Read an escaped text from left to right, after skipping characters that belong to what was
read last. -/
def restoreAfter (table : List (Char × List Char)) : Nat → List Char → List Char
  | _, [] => []
  | skip + 1, _ :: cs => restoreAfter table skip cs
  | 0, c :: cs =>
    match table.find? fun entry => entry.2.isPrefixOf (c :: cs) with
    | some entry => entry.1 :: restoreAfter table (entry.2.length - 1) cs
    | none => c :: restoreAfter table 0 cs

/-- Read an escaped text: where something stands for a character, the character is read. -/
def restore (table : List (Char × List Char)) (cs : List Char) : List Char :=
  restoreAfter table 0 cs

section Restoring

variable {table : List (Char × List Char)}

theorem restoreAfter_append (xs cs : List Char) :
    restoreAfter table xs.length (xs ++ cs) = restore table cs := by
  induction xs with
  | nil => rfl
  | cons x xs ih => exact ih

/-- Only what stands for a character is read as this character. -/
theorem IsCode.find?_append (h : IsCode table) {entry : Char × List Char} (hentry : entry ∈ table)
    (cs : List Char) : table.find? (fun e => e.2.isPrefixOf (entry.2 ++ cs)) = some entry := by
  obtain ⟨before, after, rfl⟩ := List.append_of_mem hentry
  refine List.find?_eq_some_iff_append.mpr ⟨by simp, before, after, rfl, fun e he => ?_⟩
  have hapart := (List.pairwise_append.mp h.apart).2.2 e he entry List.mem_cons_self
  rw [Bool.not_eq_true', ← Bool.not_eq_true, List.isPrefixOf_iff_prefix]
  intro hstart
  -- Of two beginnings of one text, one begins with the other.
  exact (List.prefix_or_prefix_of_prefix hstart (List.prefix_append _ _)).elim hapart.1 hapart.2

theorem IsCode.restore_entry (h : IsCode table) {entry : Char × List Char} (hentry : entry ∈ table)
    (cs : List Char) : restore table (entry.2 ++ cs) = entry.1 :: restore table cs := by
  have hfind := h.find?_append hentry cs
  obtain ⟨c, -, hhead⟩ := h.begins entry hentry
  obtain ⟨rest, hrest⟩ := List.head?_eq_some_iff.mp hhead
  rw [hrest, List.cons_append] at hfind ⊢
  have hlength : entry.2.length - 1 = rest.length := by
    rw [hrest, List.length_cons, Nat.add_sub_cancel]
  rw [restore, restoreAfter, hfind]
  refine congrArg (entry.1 :: ·) ?_
  rw [hlength]
  exact restoreAfter_append rest cs

theorem IsCode.restore_other (h : IsCode table) {c : Char} (hc : c ∉ table.map Prod.fst)
    (cs : List Char) : restore table (c :: cs) = c :: restore table cs := by
  have hfind : table.find? (fun e => e.2.isPrefixOf (c :: cs)) = none := by
    rw [List.find?_eq_none]
    intro entry hentry hstart
    obtain ⟨key, hkey, hhead⟩ := h.begins entry hentry
    obtain ⟨rest, hrest⟩ := List.head?_eq_some_iff.mp hhead
    rw [List.isPrefixOf_iff_prefix, hrest, List.cons_prefix_cons] at hstart
    exact hc (hstart.1 ▸ hkey)
  rw [restore, restoreAfter, hfind]
  rfl

/-- Reading back undoes escaping. -/
theorem restore_escapeWith (h : IsCode table) (cs : List Char) :
    restore table (escapeWith (standIn table) cs) = cs := by
  induction cs with
  | nil => rfl
  | cons c cs ih =>
    rw [escapeWith, List.flatMap_cons, standIn]
    rcases hget : Assoc.get? c table with _ | new
    · have hc : c ∉ table.map Prod.fst := by
        intro hmem
        obtain ⟨entry, hentry, rfl⟩ := List.mem_map.mp hmem
        rw [(Assoc.get?_eq_some_iff h.keys).mpr hentry] at hget
        cases hget
      exact (h.restore_other hc _).trans (congrArg (c :: ·) ih)
    · exact (h.restore_entry ((Assoc.get?_eq_some_iff h.keys).mp hget) _).trans
        (congrArg (c :: ·) ih)

end Restoring

end BorrowGraph.Text

namespace BorrowGraph.Dot

open Text

/-! ### Labels -/

/-- What stands for which character in a label. -/
def labelTable : List (Char × List Char) :=
  [('&', "&amp;".toList), ('>', "&gt;".toList), ('<', "&lt;".toList), ('"', "&quot;".toList),
    ('\n', "<br/>".toList)]

theorem isCode_labelTable : IsCode labelTable where
  keys := by decide
  untouched := by decide
  begins := by simp [labelTable]
  apart := by decide

-- The other way round, what stands for a character would be escaped again.
example : replaceInTurn labelTable.reverse "<".toList = "&amp;lt;".toList := by decide

theorem standIn_labelTable (c : Char) : standIn labelTable c = escapeLabelChar c := by
  simp only [standIn, labelTable, Assoc.get?, escapeLabelChar, @eq_comm _ c]
  split_ifs <;> rfl

/-- A character that stands for itself in a label. -/
def isOrdinary (c : Char) : Bool :=
  !(labelTable.map Prod.fst).contains c

/-- In a label, angle brackets only stand in line breaks, an ampersand begins the name of a
character, and there are no quotes and line ends. -/
structure IsLabelText (cs : List Char) : Prop where
  opening : ∀ after, '<' :: after <:+ cs → "br/>".toList <+: after
  closing : ∀ before, before ++ ['>'] <+: cs → "<br/".toList <:+ before
  ampersand : ∀ after, '&' :: after <:+ cs →
    ∃ name ∈ ["amp;", "gt;", "lt;", "quot;"], name.toList <+: after
  noQuote : '"' ∉ cs
  noLineEnd : '\n' ∉ cs

/-- An occurrence in two texts is one in the second or one in the first. -/
theorem suffix_append_cases {x : Char} {after us vs : List Char} (h : x :: after <:+ us ++ vs) :
    x :: after <:+ vs ∨ ∃ after', x :: after' <:+ us ∧ after = after' ++ vs := by
  obtain ⟨before, hsplit⟩ := h
  rcases List.append_eq_append_iff.mp hsplit with ⟨cs, rfl, hcs⟩ | ⟨cs, -, rfl⟩
  · rcases cs with _ | ⟨y, cs⟩
    · exact .inl (hcs ▸ List.suffix_refl _)
    · obtain ⟨rfl, rfl⟩ := List.cons.inj hcs
      exact .inr ⟨cs, List.suffix_append _ _, rfl⟩
  · exact .inl (List.suffix_append _ _)

theorem prefix_append_cases {x : Char} {before us vs : List Char} (h : before ++ [x] <+: us ++ vs) :
    before ++ [x] <+: us ∨ ∃ before', before' ++ [x] <+: vs ∧ before = us ++ before' := by
  obtain ⟨after, hsplit⟩ := h
  rw [List.append_assoc, List.singleton_append] at hsplit
  rcases List.append_eq_append_iff.mp hsplit with ⟨cs, rfl, hcs⟩ | ⟨cs, rfl, rfl⟩
  · rcases cs with _ | ⟨y, cs⟩
    · exact .inr ⟨[], ⟨after, hcs⟩, by simp⟩
    · obtain ⟨rfl, -⟩ := List.cons.inj hcs
      exact .inl ⟨cs, by simp⟩
  · exact .inr ⟨cs, ⟨after, by simp⟩, rfl⟩

namespace IsLabelText

variable {us vs : List Char}

theorem append (hus : IsLabelText us) (hvs : IsLabelText vs) : IsLabelText (us ++ vs) where
  opening after h := by
    rcases suffix_append_cases h with hright | ⟨after', hleft, rfl⟩
    · exact hvs.opening after hright
    · exact (hus.opening after' hleft).trans (List.prefix_append _ _)
  closing before h := by
    rcases prefix_append_cases h with hleft | ⟨before', hright, rfl⟩
    · exact hus.closing before hleft
    · exact (hvs.closing before' hright).trans (List.suffix_append _ _)
  ampersand after h := by
    rcases suffix_append_cases h with hright | ⟨after', hleft, rfl⟩
    · exact hvs.ampersand after hright
    · obtain ⟨name, hname, hstart⟩ := hus.ampersand after' hleft
      exact ⟨name, hname, hstart.trans (List.prefix_append _ _)⟩
  noQuote := by simp [hus.noQuote, hvs.noQuote]
  noLineEnd := by simp [hus.noLineEnd, hvs.noLineEnd]

theorem of_all (h : us.all isOrdinary = true) : IsLabelText us := by
  have hfree : ∀ x, isOrdinary x = false → x ∉ us := by
    intro x hx hmem
    rw [List.all_eq_true.mp h x hmem] at hx
    cases hx
  exact
    { opening := fun _ hafter => absurd (hafter.subset List.mem_cons_self) (hfree '<' rfl)
      closing := fun _ hbefore => absurd (hbefore.subset (by simp)) (hfree '>' rfl)
      ampersand := fun _ hafter => absurd (hafter.subset List.mem_cons_self) (hfree '&' rfl)
      noQuote := hfree '"' rfl
      noLineEnd := hfree '\n' rfl }

/-- An ampersand in front of the name of a character. -/
theorem named (name : String) (hname : name ∈ ["amp;", "gt;", "lt;", "quot;"])
    (h : name.toList.all isOrdinary = true) : IsLabelText ('&' :: name.toList) where
  opening after hafter := by
    rcases List.suffix_cons_iff.mp hafter with heq | hafter
    · exact absurd (List.cons.inj heq).1 (by decide)
    · exact (of_all h).opening after hafter
  closing before hbefore := by
    have hsplit : before ++ ['>'] <+: ['&'] ++ name.toList := hbefore
    rcases prefix_append_cases hsplit with hleft | ⟨before', hright, rfl⟩
    · exact absurd (hleft.subset (a := '>') (by simp)) (by decide)
    · exact ((of_all h).closing before' hright).trans (List.suffix_append _ _)
  ampersand after hafter := by
    rcases List.suffix_cons_iff.mp hafter with heq | hafter
    · exact ⟨name, hname, (List.cons.inj heq).2 ▸ List.prefix_refl _⟩
    · exact (of_all h).ampersand after hafter
  noQuote := by simp [(of_all h).noQuote]
  noLineEnd := by simp [(of_all h).noLineEnd]

theorem lineBreak : IsLabelText "<br/>".toList where
  opening after h := by
    rcases List.suffix_cons_iff.mp h with heq | h
    · exact (List.cons.inj heq).2 ▸ List.prefix_refl _
    · exact absurd (h.subset List.mem_cons_self) (by decide)
  closing before h := by
    have hsplit : before ++ ['>'] <+: "<br/".toList ++ ['>'] := h
    rcases List.prefix_concat_iff.mp hsplit with heq | hbefore
    · exact List.append_inj_left' heq rfl ▸ List.suffix_refl _
    · exact absurd (hbefore.subset (a := '>') (by simp)) (by decide)
  ampersand _ h := absurd (h.subset List.mem_cons_self) (by decide)
  noQuote := by decide
  noLineEnd := by decide

end IsLabelText

theorem isLabelText_escapeLabelChar (c : Char) : IsLabelText (escapeLabelChar c) := by
  rw [escapeLabelChar]
  split
  · exact .named "amp;" (by simp) (by decide)
  · split
    · exact .named "gt;" (by simp) (by decide)
    · split
      · exact .named "lt;" (by simp) (by decide)
      · split
        · exact .named "quot;" (by simp) (by decide)
        · split
          · exact .lineBreak
          · rename_i hampersand hclosing hopening hquote hlineEnd
            exact .of_all
              (by simp [isOrdinary, labelTable, hampersand, hclosing, hopening, hquote, hlineEnd])

theorem isLabelText_escapeLabel (s : String) : IsLabelText (escapeLabel s).toList := by
  rw [escapeLabel, String.toList_ofList, escapeWith]
  induction s.toList with
  | nil => exact .of_all rfl
  | cons c cs ih => exact (isLabelText_escapeLabelChar c).append ih

/-! ### Quoted strings -/

/-- What stands for which character in a quoted string. -/
def stringTable : List (Char × List Char) :=
  [('\\', ['\\', '\\']), ('"', ['\\', '"']), ('\n', ['\\', 'n'])]

theorem isCode_stringTable : IsCode stringTable where
  keys := by decide
  untouched := by decide
  begins := by simp [stringTable]
  apart := by decide

theorem standIn_stringTable (c : Char) : standIn stringTable c = escapeStringChar c := by
  simp only [standIn, stringTable, Assoc.get?, escapeStringChar, @eq_comm _ c]
  split_ifs <;> rfl

/-- The inside of a quoted string, from behind its first quote on, and what follows the quote
that ends it.  A backslash takes the next character with it. -/
def quotedFrom (escaped : Bool) : List Char → Option (List Char × List Char)
  | [] => none
  | c :: cs =>
    if c = '"' ∧ escaped = false then some ([], cs)
    else (quotedFrom (!escaped && decide (c = '\\')) cs).map fun x => (c :: x.1, x.2)

/-- The inside of a quoted string, and what follows it. -/
def quoted? (cs : List Char) : Option (List Char × List Char) :=
  quotedFrom false cs

theorem quoted?_of_isQuotedText {cs : List Char} (h : Markup.IsQuotedText cs) (rest : List Char) :
    quoted? (cs ++ '"' :: rest) = some (cs, rest) := by
  rw [quoted?]
  induction h with
  | nil => rfl
  | char hquote hbackslash _ ih =>
    simp [quotedFrom, hquote, hbackslash, ih]
  | escape _ ih =>
    simp [quotedFrom, ih]

theorem lineEnd_not_mem_escapeString (s : String) : '\n' ∉ (escapeString s).toList := by
  rw [escapeString, String.toList_ofList, escapeWith, List.mem_flatMap]
  rintro ⟨c, -, hc⟩
  rw [escapeStringChar] at hc
  split at hc
  · exact absurd hc (by decide)
  · split at hc
    · exact absurd hc (by decide)
    · split at hc
      · exact absurd hc (by decide)
      · rename_i hlineEnd
        exact hlineEnd (List.mem_singleton.mp hc).symm

/-! ### Both ways of escaping -/

theorem toList_escapeLabel (s : String) :
    (escapeLabel s).toList = escapeWith (standIn labelTable) s.toList := by
  rw [escapeLabel, String.toList_ofList, funext standIn_labelTable]

theorem toList_escapeString (s : String) :
    (escapeString s).toList = escapeWith (standIn stringTable) s.toList := by
  rw [escapeString, String.toList_ofList, funext standIn_stringTable]

theorem restore_escapeLabel (s : String) :
    restore labelTable (escapeLabel s).toList = s.toList := by
  rw [toList_escapeLabel, restore_escapeWith isCode_labelTable]

theorem escapeLabel_injective : Function.Injective escapeLabel := by
  intro s t h
  rw [← String.toList_inj, ← restore_escapeLabel s, ← restore_escapeLabel t, h]

/-- Both ways of escaping are one pass over the text and lose nothing.  Replacing the
characters of the table in turn gives the same as escaping each character by itself, and the
text can be read back; no text leaves its label or its quotes. -/
theorem escapes_lossless (s : String) :
    (replaceInTurn labelTable s.toList = (escapeLabel s).toList ∧
      (escapeLabel s).toList = s.toList.flatMap escapeLabelChar ∧
      (labelTable.Pairwise fun earlier later => later.1 ∉ earlier.2) ∧
      IsLabelText (escapeLabel s).toList ∧
      restore labelTable (escapeLabel s).toList = s.toList) ∧
    replaceInTurn stringTable s.toList = (escapeString s).toList ∧
      (escapeString s).toList = s.toList.flatMap escapeStringChar ∧
      (stringTable.Pairwise fun earlier later => later.1 ∉ earlier.2) ∧
      '\n' ∉ (escapeString s).toList ∧
      (∀ rest, quoted? ((escapeString s).toList ++ '"' :: rest) =
        some ((escapeString s).toList, rest)) ∧
      restore stringTable (escapeString s).toList = s.toList := by
  refine ⟨⟨?_, ?_, isCode_labelTable.untouched, isLabelText_escapeLabel s, restore_escapeLabel s⟩,
    ?_, ?_, isCode_stringTable.untouched, lineEnd_not_mem_escapeString s,
    quoted?_of_isQuotedText (isQuotedText_escapeString s), ?_⟩
  · rw [replaceInTurn_eq isCode_labelTable, toList_escapeLabel]
  · rw [toList_escapeLabel, escapeWith, funext standIn_labelTable]
  · rw [replaceInTurn_eq isCode_stringTable, toList_escapeString]
  · rw [toList_escapeString, escapeWith, funext standIn_stringTable]
  · rw [toList_escapeString, restore_escapeWith isCode_stringTable]

end BorrowGraph.Dot
