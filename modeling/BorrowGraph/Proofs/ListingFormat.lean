/-
The lines of a listing.

A listing consists of signatures, `let` lines and other lines.  A signature lists arguments and
may name a result, a `let` line declares one local, and each of them gives a type, which is a
reference with its region or something else.  Types may hold anything, parentheses and arrows
included, so that the closing parenthesis of a signature is not always the last one on its
line.

* `Numeral`, `TypeText`, `Declared`, `Line`: what is written on a line, with its text;
* `Line.IsDocumented`: the lines that are accounted for;
* `declaration?_reference`, `declaration?_other`: what is read of a single declaration;
* `pieces_append_separator`, `pieces_append`: cutting at commas, before and after other text;
* `arguments?_closing`: the arguments that are cut out may reach into the result;
* `declarations_text`: a line is read as the declarations of references that it makes.
-/
import BorrowGraph.Owners.Listing
import BorrowGraph.Proofs.AtomSpelling
import BorrowGraph.Proofs.TextShape

namespace BorrowGraph.Listing

open Owners

/-! ### What is written on a line -/

/-- A run of decimal digits. -/
structure Numeral where
  digits : List Char
  ne_nil : digits ≠ []
  isDigit : ∀ c ∈ digits, Text.isDigit c = true

/-- The number that a numeral stands for. -/
def Numeral.value (n : Numeral) : Int :=
  Text.digitsValue n.digits

/-- The mark with which a reference to a numbered region begins. -/
def referenceMark : List Char := "&'_#".toList

/-- A type: a reference with its region, or anything else. -/
inductive TypeText where
  | reference (region : Numeral) (referent : List Char)
  | other (text : List Char)

def TypeText.text : TypeText → List Char
  | .reference region referent => referenceMark ++ region.digits ++ 'r' :: ' ' :: referent
  | .other text => text

/-- A local with its type. -/
structure Declared where
  name : Numeral
  type : TypeText

def Declared.text (d : Declared) : List Char :=
  '_' :: (d.name.digits ++ ':' :: ' ' :: d.type.text)

/-- The local and the region of a declaration with a reference type. -/
def Declared.reference? (d : Declared) : Option (Numeral × Numeral) :=
  match d.type with
  | .reference region _ => some (d.name, region)
  | .other _ => none

/-- A line of a listing, without its end. -/
inductive Line where
  | signature (name : List Char) (arguments : List Declared) (result : Option (List Char))
      (opens : Bool)
  | binding (indent : List Char) (isMutable : Bool) (declared : Declared)
  | other (text : List Char)

/-- What follows the closing parenthesis of a signature. -/
def tailText (result : Option (List Char)) (opens : Bool) : List Char :=
  (match result with
    | some r => " -> ".toList ++ r
    | none => []) ++ if opens then " \x7b".toList else []

def Line.text : Line → List Char
  | .signature name arguments result opens =>
    "fn ".toList ++ (name ++ '(' :: (Text.join [',', ' '] (arguments.map Declared.text)
      ++ ')' :: tailText result opens))
  | .binding indent isMutable d =>
    indent ++ ("let ".toList ++ ((if isMutable then "mut ".toList else []) ++ (d.text ++ [';'])))
  | .other text => text

/-- The declarations of references on a line, in order. -/
def Line.references : Line → List (Numeral × Numeral)
  | .signature _ arguments _ _ => arguments.filterMap Declared.reference?
  | .binding _ _ d => d.reference?.toList
  | .other _ => []

/-! ### The lines that are accounted for -/

/-- A text that begins like a declaration: a local and a colon. -/
def StartsDeclaration (cs : List Char) : Prop :=
  ∃ (n : Numeral) (rest : List Char), cs = '_' :: (n.digits ++ ':' :: rest)

/-- The pieces of a text between commas with a blank. -/
def pieces (cs : List Char) : List (List Char) :=
  Text.splitAtText [',', ' '] cs

/-- No piece but the first begins like a declaration. -/
def IsUnmistakable (cs : List Char) : Prop :=
  ∀ piece ∈ (pieces cs).tail, ¬ StartsDeclaration (Text.trim piece)

/-- A type that is not a reference does not begin like one. -/
def TypeText.IsDocumented (t : TypeText) : Prop :=
  IsUnmistakable t.text ∧
    match t with
    | .reference _ _ => True
    | .other text => ¬ referenceMark <+: skipBlanks text

/-- The first word of a line. -/
def firstWord (cs : List Char) : List Char :=
  (skipBlanks cs).takeWhile fun c => !Text.isBlank c

/-- The shapes of lines. -/
def Line.IsDocumented (line : Line) : Prop :=
  '\n' ∉ line.text ∧
    match line with
    | .signature name arguments result _ =>
      name ≠ [] ∧ (∀ c ∈ name, isNameChar c = true) ∧ (∀ d ∈ arguments, d.type.IsDocumented) ∧
        ∀ r ∈ result, IsUnmistakable r
    | .binding indent _ d =>
      indent ≠ [] ∧ (∀ c ∈ indent, Text.isBlank c = true) ∧ d.type.IsDocumented
    | .other text => firstWord text ≠ "fn".toList ∧ firstWord text ≠ "let".toList

/-- A line as it stands in a list of lines, with or without its end. -/
def Line.IsSpelledBy (line : Line) (cs : List Char) : Prop :=
  cs = line.text ∨ cs = line.text ++ ['\n']

/-! ### Blanks -/

/-- A range of characters without blanks beyond ASCII. -/
def isFreeOfBlanks (range : Nat × Nat) : Bool :=
  decide (0x20 < range.1) &&
    [(0x85, 0x85), (0xa0, 0xa0), (0x1680, 0x1680), (0x2000, 0x200a), (0x2028, 0x2029),
      (0x202f, 0x202f), (0x205f, 0x205f), (0x3000, 0x3000)].all
      fun blanks => decide (range.2 < blanks.1) || decide (blanks.2 < range.1)

theorem isBlank_of_isWord {c : Char} (h : Text.isWord c = true) : Text.isBlank c = false := by
  have hranges : Text.wordRanges.all isFreeOfBlanks = true := by decide +kernel
  rw [Bool.eq_false_iff]
  intro hblank
  simp only [Text.isBlank, Bool.or_eq_true, Bool.and_eq_true, decide_eq_true_eq,
    beq_iff_eq] at hblank
  rw [Text.isWord] at h
  simp only at h
  split at h
  · delta Char.isAlphanum Char.isAlpha Char.isUpper Char.isLower Char.isDigit at h
    simp only [Bool.or_eq_true, Bool.and_eq_true, decide_eq_true_eq, beq_iff_eq] at h
    rcases h with ((h | h) | h) | rfl
    · have h1 : 65 ≤ c.val.toNat := h.1
      unfold Char.toNat at *
      omega
    · have h1 : 97 ≤ c.val.toNat := h.1
      unfold Char.toNat at *
      omega
    · have h1 : 48 ≤ c.val.toNat := h.1
      unfold Char.toNat at *
      omega
    · revert hblank
      decide
  · -- Beyond ASCII, a range of word characters and one of blanks never overlap.
    obtain ⟨range, hrange, hc⟩ := List.any_eq_true.mp h
    have hfree := List.all_eq_true.mp hranges range hrange
    simp only [isFreeOfBlanks, List.all_cons, List.all_nil, Bool.and_eq_true, Bool.or_eq_true,
      decide_eq_true_eq] at hfree hc
    omega

theorem isBlank_of_isNameChar {c : Char} (h : isNameChar c = true) : Text.isBlank c = false := by
  simp only [isNameChar, Bool.or_eq_true, decide_eq_true_eq] at h
  rcases h with ((h | rfl) | rfl) | rfl
  · exact isBlank_of_isWord h
  · decide
  · decide
  · decide

theorem skipBlanks_cons {c : Char} (h : Text.isBlank c = false) (cs : List Char) :
    skipBlanks (c :: cs) = c :: cs := by
  rw [skipBlanks, List.dropWhile_cons, if_neg (by simp [h])]

theorem skipBlanks_blanks {blanks : List Char} (h : ∀ c ∈ blanks, Text.isBlank c = true)
    (cs : List Char) : skipBlanks (blanks ++ cs) = skipBlanks cs :=
  List.dropWhile_append_of_pos h

theorem someBlanks?_cons {c : Char} (h : Text.isBlank c = true) (cs : List Char) :
    someBlanks? (c :: cs) = some (skipBlanks cs) := by
  rw [someBlanks?, if_pos h]

/-- Drop the blanks at the end. -/
def dropEnd (cs : List Char) : List Char :=
  (cs.reverse.dropWhile Text.isBlank).reverse

theorem trim_eq (cs : List Char) : Text.trim cs = dropEnd (skipBlanks cs) := rfl

/-- What ends in a visible character is left as it is. -/
theorem dropEnd_append {c : Char} (h : Text.isBlank c = false) (xs ys : List Char) :
    dropEnd (xs ++ c :: ys) = xs ++ c :: dropEnd ys := by
  -- Seen from the end, `c` stops the dropping, whether it gets through `ys` or not.
  have hreverse : (xs ++ c :: ys).reverse = ys.reverse ++ c :: xs.reverse := by simp
  rw [dropEnd, hreverse, List.dropWhile_append]
  split
  · rename_i hnil
    rw [List.isEmpty_iff] at hnil
    rw [List.dropWhile_cons, if_neg (by simp [h]), dropEnd, hnil]
    simp
  · rw [dropEnd]
    simp

theorem exists_dropEnd (cs : List Char) :
    ∃ blanks, cs = dropEnd cs ++ blanks ∧ ∀ c ∈ blanks, Text.isBlank c = true := by
  refine ⟨(cs.reverse.takeWhile Text.isBlank).reverse, ?_, fun c hc => ?_⟩
  · rw [dropEnd, ← List.reverse_append, List.takeWhile_append_dropWhile, List.reverse_reverse]
  · exact List.mem_takeWhile_imp (List.mem_reverse.mp hc)

/-! ### Single declarations -/

theorem digits?_numeral (n : Numeral) {rest : List Char}
    (hrest : ∀ c ∈ rest.head?, Text.isDigit c = false) :
    digits? (n.digits ++ rest) = some (n.digits, rest) := by
  obtain ⟨htake, hdrop⟩ := Spelling.span_digits n.isDigit hrest
  rw [digits?, htake, hdrop, if_neg (by simpa using n.ne_nil)]

theorem stripStart?_append (start rest : List Char) :
    Text.stripStart? start (start ++ rest) = some rest :=
  Spelling.stripStart?_eq_some_iff.mpr rfl

theorem stripStart?_eq_none {start cs : List Char} (h : ¬ start <+: cs) :
    Text.stripStart? start cs = none := by
  rw [Option.eq_none_iff_forall_ne_some]
  intro rest hrest
  exact h ⟨rest, (Spelling.stripStart?_eq_some_iff.mp hrest).symm⟩

/-- After a local and a colon, what counts is whether a reference follows. -/
theorem declaration?_named (n : Numeral) (cs : List Char) :
    declaration? ('_' :: (n.digits ++ ':' :: cs)) =
      ((Text.stripStart? referenceMark (skipBlanks cs)).bind digits?).bind fun x =>
        match x.2 with
        | 'r' :: c :: _ => if Text.isBlank c then some (n.digits, x.1) else none
        | _ => none := by
  have hmark : Text.stripStart? ['_'] ('_' :: (n.digits ++ ':' :: cs)) =
      some (n.digits ++ ':' :: cs) := rfl
  have hcolon : Text.stripStart? [':'] (':' :: cs) = some cs := rfl
  rw [declaration?, hmark]
  simp only [Option.bind_eq_bind, Option.bind_some]
  rw [digits?_numeral n (by simp; decide)]
  simp only [Option.bind_some, hcolon, Option.bind_assoc]
  rfl

theorem declaration?_reference (n region : Numeral) {c : Char} (hc : Text.isBlank c = true)
    (cs : List Char) :
    declaration?
      ('_' :: (n.digits ++ ':' :: ' ' :: (referenceMark ++ region.digits ++ 'r' :: c :: cs))) =
      some (n.digits, region.digits) := by
  have hskip : skipBlanks (' ' :: (referenceMark ++ region.digits ++ 'r' :: c :: cs)) =
      referenceMark ++ (region.digits ++ 'r' :: c :: cs) := by
    rw [List.append_assoc]
    rfl
  rw [declaration?_named, hskip, stripStart?_append, Option.bind_some,
    digits?_numeral region (by simp; decide), Option.bind_some]
  exact if_pos hc

theorem declaration?_other (n : Numeral) {cs : List Char} (h : ¬ referenceMark <+: skipBlanks cs) :
    declaration? ('_' :: (n.digits ++ ':' :: cs)) = none := by
  rw [declaration?_named, stripStart?_eq_none h]
  rfl

/-- What is read as a declaration begins like one. -/
theorem startsDeclaration_of_declaration? {cs : List Char} {x : List Char × List Char}
    (h : declaration? cs = some x) : StartsDeclaration cs := by
  simp only [declaration?, Option.bind_eq_bind, Option.bind_eq_some_iff] at h
  obtain ⟨cs₁, hmark, ⟨run, cs₂⟩, hrun, cs₃, hcolon, -⟩ := h
  rw [Spelling.stripStart?_eq_some_iff] at hmark hcolon
  rw [digits?] at hrun
  split at hrun
  · cases hrun
  · rename_i hne
    obtain ⟨rfl, rfl⟩ := Prod.mk.inj (Option.some_inj.mp hrun)
    have hsplit : cs₁.takeWhile Text.isDigit ++ ':' :: cs₃ = cs₁ :=
      (congrArg _ hcolon.symm).trans List.takeWhile_append_dropWhile
    exact ⟨⟨cs₁.takeWhile Text.isDigit, by simpa using hne,
      fun c hc => List.mem_takeWhile_imp hc⟩, cs₃, hmark.trans (congrArg _ hsplit.symm)⟩

/-! ### Beginnings -/

/-- A character that is not in the first part of a text is in the second. -/
theorem exists_of_not_mem_left {x : Char} {as bs cs ds : List Char} (hx : x ∉ as)
    (h : as ++ bs = cs ++ x :: ds) : ∃ part, cs = as ++ part ∧ bs = part ++ x :: ds := by
  rcases List.append_eq_append_iff.mp h with h' | ⟨zs, rfl, hzs⟩
  · exact h'
  · rcases zs with _ | ⟨z, zs⟩
    · exact ⟨[], by simp, hzs.symm⟩
    · obtain rfl : x = z := (List.cons.inj hzs).1
      exact absurd (by simp) hx

/-- A character that is not in the second part of a text is in the first. -/
theorem exists_of_not_mem_right {x : Char} {as bs cs ds : List Char} (hx : x ∉ bs)
    (h : as ++ bs = cs ++ x :: ds) : ∃ rest, as = cs ++ x :: rest := by
  rcases List.append_eq_append_iff.mp h with ⟨zs, -, rfl⟩ | ⟨zs, rfl, hzs⟩
  · exact absurd (by simp) hx
  · rcases zs with _ | ⟨z, zs⟩
    · obtain rfl : x :: ds = bs := hzs
      exact absurd (by simp) hx
    · obtain rfl : x = z := (List.cons.inj hzs).1
      exact ⟨zs, rfl⟩

/-- Behind blanks a text begins with one of some words. -/
def BeginsWith (words : List Char → Prop) (cs : List Char) : Prop :=
  ∃ blanks word rest, (∀ c ∈ blanks, Text.isBlank c = true) ∧ words word ∧
    cs = blanks ++ word ++ rest

section Beginnings

variable {words : List Char → Prop} {xs ys : List Char}

theorem BeginsWith.extend (h : BeginsWith words xs) (hstart : xs <+: ys) :
    BeginsWith words ys := by
  obtain ⟨blanks, word, rest, hblanks, hword, rfl⟩ := h
  obtain ⟨more, rfl⟩ := hstart
  exact ⟨blanks, word, rest ++ more, hblanks, hword, by simp⟩

/-- A visible character that is in none of the words ends the part that matters. -/
theorem BeginsWith.of_stop {x : Char} (hx : Text.isBlank x = false)
    (hwords : ∀ word, words word → x ∉ word) (h : BeginsWith words (xs ++ x :: ys)) :
    BeginsWith words xs := by
  obtain ⟨blanks, word, rest, hblanks, hword, heq⟩ := h
  have hstop : x ∉ blanks ++ word := by
    rw [List.mem_append, not_or]
    exact ⟨fun hmem => absurd ((hblanks _ hmem).symm.trans hx) (by decide), hwords word hword⟩
  obtain ⟨part, rfl, -⟩ := exists_of_not_mem_left hstop heq.symm
  exact ⟨blanks, word, part, hblanks, hword, rfl⟩

/-- A blank at the end does not matter. -/
theorem BeginsWith.of_blank (hwords : ∀ word, words word → ∃ c, word.getLast? = some c ∧ c ≠ ' ')
    (h : BeginsWith words (xs ++ [' '])) : BeginsWith words xs := by
  obtain ⟨blanks, word, rest, hblanks, hword, heq⟩ := h
  rcases List.eq_nil_or_concat rest with rfl | ⟨rest, c, rfl⟩
  · obtain ⟨c, hlast, hc⟩ := hwords word hword
    have hend : (xs ++ [' ']).getLast? = (blanks ++ word).getLast? := by rw [heq, List.append_nil]
    rw [List.getLast?_concat, List.getLast?_append, hlast] at hend
    exact absurd (Option.some_inj.mp hend).symm hc
  · rw [List.concat_eq_append, ← List.append_assoc] at heq
    exact ⟨blanks, word, rest, hblanks, hword, (List.append_inj' heq rfl).1⟩

end Beginnings

/-- A local and a colon. -/
def IsName (word : List Char) : Prop :=
  ∃ n : Numeral, word = '_' :: (n.digits ++ [':'])

theorem closing_not_mem_name (word : List Char) (h : IsName word) : ')' ∉ word := by
  obtain ⟨n, rfl⟩ := h
  simp only [List.mem_cons, List.mem_append, List.not_mem_nil, or_false, not_or]
  exact ⟨by decide, fun hmem => absurd (n.isDigit _ hmem) (by decide), by decide⟩

theorem getLast?_name (word : List Char) (h : IsName word) :
    ∃ c, word.getLast? = some c ∧ c ≠ ' ' := by
  obtain ⟨n, rfl⟩ := h
  exact ⟨':', by rw [← List.cons_append, List.getLast?_concat], by decide⟩

/-- Pieces that may be read as declarations are told by their beginnings. -/
theorem beginsWith_name_iff {piece : List Char} :
    BeginsWith IsName piece ↔ StartsDeclaration (Text.trim piece) := by
  constructor
  · rintro ⟨blanks, _, rest, hblanks, ⟨n, rfl⟩, rfl⟩
    refine ⟨n, dropEnd rest, ?_⟩
    have hline : blanks ++ '_' :: (n.digits ++ [':']) ++ rest =
        blanks ++ '_' :: (n.digits ++ ':' :: rest) := by simp
    rw [hline, trim_eq, skipBlanks_blanks hblanks, skipBlanks_cons (by decide), ← List.cons_append,
      dropEnd_append (by decide), List.cons_append]
  · rintro ⟨n, rest, htrim⟩
    obtain ⟨⟨before, after, hpiece, hbefore, -⟩, -, -⟩ := Text.isTrimmed_iff.mpr htrim
    exact ⟨before, _, rest ++ after, hbefore, ⟨n, rfl⟩, by simp [hpiece]⟩

/-- A piece that does not begin like a declaration is passed over. -/
theorem declaration?_piece {piece : List Char} (h : ¬ BeginsWith IsName piece) :
    declaration? (Text.trim piece ++ [' ']) = none := by
  rw [Option.eq_none_iff_forall_ne_some]
  intro x hx
  obtain ⟨n, rest, heq⟩ := startsDeclaration_of_declaration? hx
  have hbegins : BeginsWith IsName (Text.trim piece ++ [' ']) :=
    ⟨[], _, rest, by simp, ⟨n, rfl⟩, by simp [heq]⟩
  obtain ⟨before, _, rest', hbefore, hname, htrim⟩ := hbegins.of_blank getLast?_name
  obtain ⟨⟨before', after, hpiece, hbefore', -⟩, -, -⟩ := Text.isTrimmed_iff.mpr htrim
  refine h ⟨before' ++ before, _, rest' ++ after, fun c hc => ?_, hname, by simp [hpiece]⟩
  exact (List.mem_append.mp hc).elim (hbefore' c) (hbefore c)

/-- References are told by their beginnings. -/
theorem beginsWith_mark_iff {cs : List Char} :
    BeginsWith (· = referenceMark) cs ↔ referenceMark <+: skipBlanks cs := by
  constructor
  · rintro ⟨blanks, _, rest, hblanks, rfl, rfl⟩
    rw [List.append_assoc, skipBlanks_blanks hblanks]
    exact ⟨rest, (skipBlanks_cons (c := '&') (by decide) _).symm⟩
  · rintro ⟨rest, hrest⟩
    refine ⟨cs.takeWhile Text.isBlank, _, rest, fun c hc => List.mem_takeWhile_imp hc, rfl, ?_⟩
    rw [List.append_assoc, hrest, skipBlanks, List.takeWhile_append_dropWhile]

/-! ### Pieces -/

theorem pieces_nil : pieces [] = [[]] := rfl

theorem pieces_separator (cs : List Char) : pieces (',' :: ' ' :: cs) = [] :: pieces cs := rfl

theorem pieces_cons {c : Char} {cs : List Char} (h : ¬ (c = ',' ∧ cs.head? = some ' ')) :
    pieces (c :: cs) = Text.consFirst c (pieces cs) := by
  have hstart : [',', ' '].isPrefixOf (c :: cs) = false := by
    rw [Bool.eq_false_iff]
    intro hp
    rcases cs with _ | ⟨d, cs⟩
    · simp [List.isPrefixOf] at hp
    · simp only [List.isPrefixOf, Bool.and_eq_true, beq_iff_eq] at hp
      exact h ⟨hp.1.symm, by rw [← hp.2.1]; rfl⟩
  rw [pieces, Text.splitAtText, Text.splitAfter, if_neg (by simp [hstart])]
  rfl

theorem pieces_ne_nil (cs : List Char) : pieces cs ≠ [] := by
  match cs with
  | [] => simp [pieces_nil]
  | c :: cs =>
    by_cases h : c = ',' ∧ cs.head? = some ' '
    · obtain ⟨rfl, hhead⟩ := h
      obtain ⟨rest, rfl⟩ := List.head?_eq_some_iff.mp hhead
      simp [pieces_separator]
    · rw [pieces_cons h]
      rcases pieces cs with _ | ⟨p, ps⟩
      · simp [Text.consFirst]
      · simp [Text.consFirst]

/-- Text without commas belongs to the first piece of what follows. -/
theorem pieces_append_of_noComma {xs ys : List Char} (hxs : ',' ∉ xs) {p : List Char}
    {ps : List (List Char)} (h : pieces ys = p :: ps) : pieces (xs ++ ys) = (xs ++ p) :: ps := by
  induction xs with
  | nil => exact h
  | cons x xs ih =>
    rw [List.mem_cons, not_or] at hxs
    rw [List.cons_append, pieces_cons (fun hx => hxs.1 hx.1.symm), ih hxs.2]
    rfl

/-- A separator between two texts separates their pieces. -/
theorem pieces_append_separator :
    ∀ xs ys : List Char, pieces (xs ++ ',' :: ' ' :: ys) = pieces xs ++ pieces ys
  | [], ys => pieces_separator ys
  | [c], ys => by
    rw [List.singleton_append, pieces_cons (by simp), pieces_separator, pieces_cons (by simp)]
    rfl
  | c :: d :: xs, ys => by
    by_cases h : c = ',' ∧ d = ' '
    · obtain ⟨rfl, rfl⟩ := h
      rw [List.cons_append, List.cons_append, pieces_separator, pieces_separator,
        pieces_append_separator xs ys]
      rfl
    · have hcons : ∀ zs, pieces (c :: d :: zs) = Text.consFirst c (pieces (d :: zs)) := fun zs =>
        pieces_cons (by simpa using h)
      have ih := pieces_append_separator (d :: xs) ys
      rw [List.cons_append] at ih
      rw [List.cons_append, List.cons_append, hcons, hcons, ih]
      obtain ⟨p, ps, hp⟩ := List.exists_cons_of_ne_nil (pieces_ne_nil (d :: xs))
      rw [hp]
      rfl

/-- Lists of pieces, the last one of the first list running into the first one of the second. -/
def glue : List (List Char) → List (List Char) → List (List Char)
  | [], qs => qs
  | [p], [] => [p]
  | [p], q :: qs => (p ++ q) :: qs
  | p :: p' :: ps, qs => p :: glue (p' :: ps) qs

theorem consFirst_glue (c : Char) (p : List Char) (ps qs : List (List Char)) :
    Text.consFirst c (glue (p :: ps) qs) = glue (Text.consFirst c (p :: ps)) qs := by
  rcases ps with _ | ⟨p', ps⟩
  · rcases qs with _ | ⟨q, qs⟩
    · rfl
    · rfl
  · rfl

/-- Text that does not begin with a blank continues the last piece of what is before it. -/
theorem pieces_append {ys : List Char} (hys : ys.head? ≠ some ' ') :
    ∀ xs : List Char, pieces (xs ++ ys) = glue (pieces xs) (pieces ys)
  | [] => by
    obtain ⟨q, qs, hq⟩ := List.exists_cons_of_ne_nil (pieces_ne_nil ys)
    rw [List.nil_append, hq]
    rfl
  | [c] => by
    rw [List.singleton_append, pieces_cons (fun h => hys h.2), pieces_cons (by simp)]
    obtain ⟨q, qs, hq⟩ := List.exists_cons_of_ne_nil (pieces_ne_nil ys)
    rw [hq]
    rfl
  | c :: d :: xs => by
    by_cases h : c = ',' ∧ d = ' '
    · obtain ⟨rfl, rfl⟩ := h
      obtain ⟨p, ps, hp⟩ := List.exists_cons_of_ne_nil (pieces_ne_nil xs)
      rw [List.cons_append, List.cons_append, pieces_separator, pieces_separator,
        pieces_append hys xs, hp]
      rfl
    · have hcons : ∀ zs, pieces (c :: d :: zs) = Text.consFirst c (pieces (d :: zs)) := fun zs =>
        pieces_cons (by simpa using h)
      have ih := pieces_append hys (d :: xs)
      obtain ⟨p, ps, hp⟩ := List.exists_cons_of_ne_nil (pieces_ne_nil (d :: xs))
      rw [List.cons_append] at ih
      rw [List.cons_append, List.cons_append, hcons, hcons, ih, hp, consFirst_glue]

theorem tail_glue_cases {p q : List Char} {ps qs : List (List Char)} {x : List Char}
    (hx : x ∈ (glue (p :: ps) (q :: qs)).tail) :
    x ∈ ps ∨ x ∈ qs ∨ ∃ y ∈ ps, x = y ++ q := by
  induction ps generalizing p with
  | nil => exact .inr (.inl hx)
  | cons p' ps ih =>
    have hx' : x ∈ glue (p' :: ps) (q :: qs) := hx
    rcases ps with _ | ⟨p'', ps⟩
    · rcases List.mem_cons.mp hx' with rfl | hx'
      · exact .inr (.inr ⟨p', by simp, rfl⟩)
      · exact .inr (.inl hx')
    · rcases List.mem_cons.mp hx' with rfl | hx'
      · exact .inl (by simp)
      · rcases ih (p := p') hx' with h | h | ⟨y, hy, rfl⟩
        · exact .inl (List.mem_cons_of_mem _ h)
        · exact .inr (.inl h)
        · exact .inr (.inr ⟨y, List.mem_cons_of_mem _ hy, rfl⟩)

theorem head_glue (p q : List Char) (ps qs : List (List Char)) :
    ∃ more rest, glue (p :: ps) (q :: qs) = (p ++ more) :: rest ∧ (more = [] ∨ more = q) := by
  rcases ps with _ | ⟨p', ps⟩
  · exact ⟨q, qs, rfl, .inr rfl⟩
  · exact ⟨[], _, by rw [List.append_nil]; rfl, .inl rfl⟩

theorem mem_tail_glue (p q : List Char) {ps : List (List Char)} (qs : List (List Char))
    {x : List Char} (hx : x ∈ ps) : ∃ y ∈ (glue (p :: ps) (q :: qs)).tail, x <+: y := by
  induction ps generalizing p with
  | nil => cases hx
  | cons p' ps ih =>
    rcases List.mem_cons.mp hx with rfl | hx
    · obtain ⟨more, rest, hglue, -⟩ := head_glue x q ps qs
      refine ⟨x ++ more, ?_, List.prefix_append _ _⟩
      show x ++ more ∈ glue (x :: ps) (q :: qs)
      rw [hglue]
      exact List.mem_cons_self
    · obtain ⟨y, hy, hstart⟩ := ih p' hx
      exact ⟨y, List.mem_of_mem_tail hy, hstart⟩

/-- The first piece of a text is its beginning. -/
theorem prefix_of_pieces {cs p : List Char} {ps : List (List Char)} (h : pieces cs = p :: ps) :
    p <+: cs := by
  induction cs generalizing p ps with
  | nil =>
    obtain rfl : [] = p := (List.cons.inj h).1
    exact List.nil_prefix
  | cons c cs ih =>
    by_cases hc : c = ',' ∧ cs.head? = some ' '
    · obtain ⟨rfl, hhead⟩ := hc
      obtain ⟨rest, rfl⟩ := List.head?_eq_some_iff.mp hhead
      obtain rfl : [] = p := (List.cons.inj h).1
      exact List.nil_prefix
    · obtain ⟨q, qs, hq⟩ := List.exists_cons_of_ne_nil (pieces_ne_nil cs)
      rw [pieces_cons hc, hq] at h
      obtain rfl : c :: q = p := (List.cons.inj h).1
      exact List.cons_prefix_cons.mpr ⟨rfl, ih hq⟩

/-! ### Arguments -/

/-- What may follow the arguments of a signature in the text that is cut out: nothing, or a
closing parenthesis with part of the result. -/
structure IsOverhang (cs : List Char) : Prop where
  closing : cs = [] ∨ ∃ rest, cs = ')' :: rest
  unmistakable : ∀ piece ∈ (pieces cs).tail, ¬ BeginsWith IsName piece

/-- The numerals of a declaration as they are read. -/
def spelling (x : Numeral × Numeral) : List Char × List Char :=
  (x.1.digits, x.2.digits)

theorem map_spelling_cons (d : Declared) (ds : List Declared) :
    ((d :: ds).filterMap Declared.reference?).map spelling =
      (d.reference?.map spelling).toList ++ (ds.filterMap Declared.reference?).map spelling := by
  rw [List.filterMap_cons]
  rcases d.reference? with _ | x
  · rfl
  · rfl

theorem dropEnd_blank (cs : List Char) : ∃ rest, dropEnd (' ' :: cs) ++ [' '] = ' ' :: rest := by
  obtain ⟨blanks, hblanks, -⟩ := exists_dropEnd (' ' :: cs)
  rcases h : dropEnd (' ' :: cs) with _ | ⟨c, rest⟩
  · exact ⟨[], rfl⟩
  · rw [h, List.cons_append, List.cons.injEq] at hblanks
    exact ⟨rest ++ [' '], by rw [← hblanks.1]; rfl⟩

/-- The first piece of a declaration tells whether its type is a reference, whatever follows
the closing parenthesis behind it. -/
theorem declaration?_firstPiece {d : Declared} (hd : d.type.IsDocumented) {p : List Char}
    {ps : List (List Char)} (hp : pieces d.type.text = p :: ps) {more : List Char}
    (hmore : more = [] ∨ ∃ rest, more = ')' :: rest) :
    declaration? (Text.trim ('_' :: (d.name.digits ++ ':' :: ' ' :: (p ++ more))) ++ [' ']) =
      d.reference?.map spelling := by
  have htrim : Text.trim ('_' :: (d.name.digits ++ ':' :: ' ' :: (p ++ more))) ++ [' '] =
      '_' :: (d.name.digits ++ ':' :: (dropEnd (' ' :: (p ++ more)) ++ [' '])) := by
    rw [trim_eq, skipBlanks_cons (by decide), ← List.cons_append, dropEnd_append (by decide)]
    simp
  rw [htrim]
  obtain ⟨name, type⟩ := d
  cases type with
  | reference region referent =>
    obtain ⟨q, qs, hq⟩ := List.exists_cons_of_ne_nil (pieces_ne_nil referent)
    have hcomma : ',' ∉ referenceMark ++ region.digits ++ ['r', ' '] := by
      simp only [List.mem_append, not_or]
      exact ⟨⟨by decide, fun hmem => absurd (region.isDigit _ hmem) (by decide)⟩, by decide⟩
    have hpieces := pieces_append_of_noComma hcomma hq
    rw [List.append_assoc] at hpieces
    obtain rfl := (List.cons.inj (hpieces.symm.trans hp)).1
    have hline : ' ' :: (referenceMark ++ region.digits ++ ['r', ' '] ++ q ++ more) =
        ' ' :: (referenceMark ++ region.digits) ++ 'r' :: ' ' :: (q ++ more) := by simp
    obtain ⟨rest, hrest⟩ := dropEnd_blank (q ++ more)
    rw [hline, dropEnd_append (by decide), List.append_assoc, List.cons_append, List.cons_append,
      hrest]
    exact declaration?_reference name region (by decide) rest
  | other text =>
    refine declaration?_other name fun hmark => hd.2 (beginsWith_mark_iff.mp ?_)
    have hlast : ∀ word, word = referenceMark → ∃ c, word.getLast? = some c ∧ c ≠ ' ' := by
      rintro _ rfl
      exact ⟨'#', by decide, by decide⟩
    -- Neither the blanks that are dropped at the end nor what follows a parenthesis can make
    -- it a reference.
    obtain ⟨blanks, hblanks, -⟩ := exists_dropEnd (' ' :: (p ++ more))
    have hpiece : BeginsWith (· = referenceMark) (' ' :: (p ++ more)) := by
      rw [hblanks]
      exact ((beginsWith_mark_iff.mpr hmark).of_blank hlast).extend (List.prefix_append _ _)
    rw [beginsWith_mark_iff, show skipBlanks (' ' :: (p ++ more)) = skipBlanks (p ++ more) from rfl,
      ← beginsWith_mark_iff] at hpiece
    refine BeginsWith.extend ?_ (prefix_of_pieces hp)
    rcases hmore with rfl | ⟨rest, rfl⟩
    · rwa [List.append_nil] at hpiece
    · exact hpiece.of_stop (by decide) (by rintro _ rfl; decide)

theorem IsOverhang.head {cs q : List Char} {qs : List (List Char)} (h : IsOverhang cs)
    (hq : pieces cs = q :: qs) : q = [] ∨ ∃ rest, q = ')' :: rest := by
  rcases h.closing with rfl | ⟨rest, rfl⟩
  · exact .inl (List.cons.inj hq).1.symm
  · obtain ⟨p, ps, hp⟩ := List.exists_cons_of_ne_nil (pieces_ne_nil rest)
    rw [pieces_cons (by simp), hp] at hq
    exact .inr ⟨p, (List.cons.inj hq).1.symm⟩

theorem IsUnmistakable.of_mem {cs p : List Char} {ps : List (List Char)} (h : IsUnmistakable cs)
    (hp : pieces cs = p :: ps) {x : List Char} (hx : x ∈ ps) : ¬ BeginsWith IsName x := by
  rw [beginsWith_name_iff]
  exact h x (by rw [hp]; exact hx)

/-- The pieces of a declaration, with an overhang, are read as that declaration. -/
theorem filterMap_declared {d : Declared} (hd : d.type.IsDocumented) {extra : List Char}
    (hover : IsOverhang extra) :
    (pieces (d.text ++ extra)).filterMap (fun a => declaration? (Text.trim a ++ [' '])) =
      (d.reference?.map spelling).toList := by
  obtain ⟨p, ps, hp⟩ := List.exists_cons_of_ne_nil (pieces_ne_nil d.type.text)
  obtain ⟨q, qs, hq⟩ := List.exists_cons_of_ne_nil (pieces_ne_nil extra)
  have hcomma : ',' ∉ '_' :: (d.name.digits ++ [':', ' ']) := by
    simp only [List.mem_cons, List.mem_append, not_or]
    exact ⟨by decide, fun hmem => absurd (d.name.isDigit _ hmem) (by decide), by decide⟩
  have hhead : extra.head? ≠ some ' ' := by
    rcases hover.closing with rfl | ⟨rest, rfl⟩
    · simp
    · simp
  have hpieces : pieces d.text = ('_' :: (d.name.digits ++ ':' :: ' ' :: p)) :: ps := by
    have h := pieces_append_of_noComma hcomma hp
    simpa [Declared.text] using h
  have hqhead := hover.head hq
  rw [pieces_append hhead, hpieces, hq]
  obtain ⟨more, rest, hglue, hmore⟩ :=
    head_glue ('_' :: (d.name.digits ++ ':' :: ' ' :: p)) q ps qs
  -- Only the first piece can be read as a declaration: the others are pieces of the type, of
  -- the overhang, or the last one of the type run together with the first one of the overhang.
  have hrest : ∀ x ∈ rest, declaration? (Text.trim x ++ [' ']) = none := by
    intro x hx
    have htail : x ∈ (glue (('_' :: (d.name.digits ++ ':' :: ' ' :: p)) :: ps) (q :: qs)).tail := by
      rw [hglue]
      exact hx
    refine declaration?_piece fun hbegins => ?_
    rcases tail_glue_cases htail with hx | hx | ⟨y, hy, rfl⟩
    · exact hd.1.of_mem hp hx hbegins
    · exact hover.unmistakable x (by rw [hq]; exact hx) hbegins
    · refine hd.1.of_mem hp hy ?_
      rcases hqhead with rfl | ⟨rest, rfl⟩
      · rwa [List.append_nil] at hbegins
      · exact hbegins.of_stop (by decide) closing_not_mem_name
  have hmore' : more = [] ∨ ∃ rest, more = ')' :: rest := by
    rcases hmore with rfl | rfl
    · exact .inl rfl
    · exact hqhead
  have hfirst := declaration?_firstPiece hd hp hmore'
  rw [hglue, List.filterMap_cons, List.filterMap_eq_nil_iff.mpr hrest]
  simp only [List.cons_append, List.append_assoc, hfirst]
  rcases d.reference? with _ | x
  · rfl
  · rfl

/-- The pieces of the arguments, with an overhang, are read as their declarations. -/
theorem filterMap_arguments {args : List Declared} (hargs : ∀ d ∈ args, d.type.IsDocumented)
    {extra : List Char} (hover : IsOverhang extra) :
    (pieces (Text.join [',', ' '] (args.map Declared.text) ++ extra)).filterMap
        (fun a => declaration? (Text.trim a ++ [' '])) =
      (args.filterMap Declared.reference?).map spelling := by
  induction args with
  | nil =>
    obtain ⟨q, qs, hq⟩ := List.exists_cons_of_ne_nil (pieces_ne_nil extra)
    refine List.filterMap_eq_nil_iff.mpr fun x hx => declaration?_piece fun hbegins => ?_
    rw [List.map_nil, Text.join, List.nil_append, hq] at hx
    rcases List.mem_cons.mp hx with rfl | hx
    · have hempty : BeginsWith IsName [] := by
        rcases hover.head hq with rfl | ⟨rest, rfl⟩
        · exact hbegins
        · exact hbegins.of_stop (by decide) closing_not_mem_name
      obtain ⟨blanks, word, rest, -, ⟨n, rfl⟩, hnil⟩ := hempty
      simp at hnil
    · exact hover.unmistakable x (by rw [hq]; exact hx) hbegins
  | cons d args ih =>
    rw [List.forall_mem_cons] at hargs
    rcases args with _ | ⟨d', args⟩
    · rw [map_spelling_cons, List.filterMap_nil, List.map_nil, List.append_nil]
      exact filterMap_declared hargs.1 hover
    · have hplain : IsOverhang [] := ⟨.inl rfl, by simp [pieces_nil]⟩
      have h := filterMap_declared hargs.1 hplain
      rw [List.append_nil] at h
      have hjoin : Text.join [',', ' '] ((d :: d' :: args).map Declared.text) ++ extra =
          d.text ++ ',' :: ' ' ::
            (Text.join [',', ' '] ((d' :: args).map Declared.text) ++ extra) := by
        simp [Text.join]
      rw [map_spelling_cons d (d' :: args), hjoin, pieces_append_separator, List.filterMap_append,
        h, ih hargs.2]

/-! ### Signatures -/

theorem arguments?_eq_some {cs args : List Char} (h : arguments? cs = some args) :
    ∃ rest, cs = args ++ ')' :: rest := by
  induction cs generalizing args with
  | nil => cases h
  | cons c cs ih =>
    rw [arguments?] at h
    split at h
    · cases h
    · split at h
      · rename_i args' hargs
        obtain rfl := Option.some_inj.mp h
        obtain ⟨rest, rfl⟩ := ih hargs
        exact ⟨rest, rfl⟩
      · split at h
        · rename_i hclosing
          rw [Bool.and_eq_true, decide_eq_true_eq] at hclosing
          obtain rfl := Option.some_inj.mp h
          exact ⟨cs, by rw [hclosing.1]; rfl⟩
        · cases h

/-- The arguments end at a closing parenthesis behind which the line may end, or at a later one. -/
theorem arguments?_closing {args rest : List Char} (hargs : '\n' ∉ args)
    (hrest : isTail rest = true) :
    ∃ extra, arguments? (args ++ ')' :: rest) = some (args ++ extra) ∧
      (extra = [] ∨ ∃ before after, extra = ')' :: before ∧ rest = before ++ ')' :: after) := by
  induction args with
  | nil =>
    rw [List.nil_append, arguments?, if_neg (by decide)]
    -- A later closing parenthesis is preferred to this one.
    rcases h : arguments? rest with _ | before
    · exact ⟨[], by simp [hrest], .inl rfl⟩
    · obtain ⟨after, hafter⟩ := arguments?_eq_some h
      exact ⟨')' :: before, rfl, .inr ⟨before, after, rfl, hafter⟩⟩
  | cons c args ih =>
    rw [List.mem_cons, not_or] at hargs
    obtain ⟨extra, hover, hcases⟩ := ih hargs.2
    refine ⟨extra, ?_, hcases⟩
    rw [List.cons_append, arguments?, if_neg (Ne.symm hargs.1), hover]
    rfl

/-- The end of a line that is a signature. -/
theorem isTail_tailText {result : Option (List Char)} {opens : Bool} {ending : List Char}
    (hline : '\n' ∉ tailText result opens) (hending : ending = [] ∨ ending = ['\n']) :
    isTail (tailText result opens ++ ending) = true := by
  rcases result with _ | r
  · cases opens with
    | false => rcases hending with rfl | rfl <;> decide
    | true => rcases hending with rfl | rfl <;> decide
  · obtain ⟨rest, hrest⟩ : ∃ rest, tailText (some r) opens = " -> ".toList ++ rest :=
      ⟨r ++ if opens then " \x7b".toList else [], List.append_assoc " -> ".toList r _⟩
    rw [hrest, List.mem_append, not_or] at hline
    have hskip : skipBlanks (" -> ".toList ++ rest ++ ending) =
      '-' :: '>' :: ' ' :: (rest ++ ending) := rfl
    -- Behind the arrow all is passed over, up to the end of the line.
    have hlast : isOpening ((skipBlanks (' ' :: (rest ++ ending))).dropWhile fun c => c != '\n') =
        true := by
      have hvisible : ∀ c ∈ skipBlanks rest, (c != '\n') = true := by
        intro c hc
        have hmem : c ∈ rest := (List.dropWhile_sublist _).subset hc
        rw [bne_iff_ne]
        rintro rfl
        exact hline.2 hmem
      rw [show skipBlanks (' ' :: (rest ++ ending)) = skipBlanks (rest ++ ending) from rfl,
        skipBlanks, List.dropWhile_append]
      split
      · rcases hending with rfl | rfl <;> decide
      · rw [← skipBlanks, List.dropWhile_append_of_pos hvisible]
        rcases hending with rfl | rfl <;> decide
    rw [hrest, isTail, hskip, Bool.or_eq_true]
    exact .inr hlast

/-- What is cut out of a signature beyond its arguments does not look like further ones. -/
theorem isOverhang_of_tail {result : Option (List Char)} {opens : Bool} {ending : List Char}
    (hresult : ∀ r ∈ result, IsUnmistakable r) (hending : ending = [] ∨ ending = ['\n'])
    {before after : List Char} (h : tailText result opens ++ ending = before ++ ')' :: after) :
    IsOverhang (')' :: before) := by
  have hclosed : ')' ∉ (if opens then " \x7b".toList else []) ++ ending := by
    rcases hending with rfl | rfl <;> cases opens <;> decide
  rcases result with _ | r
  · have hmem : ')' ∈ (if opens then " \x7b".toList else []) ++ ending := by
      rw [show (if opens then " \x7b".toList else []) ++ ending = before ++ ')' :: after from h]
      simp
    exact absurd hmem hclosed
  · -- The parenthesis is part of the result, so the pieces before it are pieces of the result.
    have hsplit : " -> ".toList ++ r ++ ((if opens then " \x7b".toList else []) ++ ending) =
        before ++ ')' :: after :=
      (List.append_assoc (" -> ".toList ++ r) _ ending).symm.trans h
    obtain ⟨rest, hresultEnd⟩ := exists_of_not_mem_right hclosed hsplit
    obtain ⟨part, hbefore, hr⟩ := exists_of_not_mem_left (by decide) hresultEnd
    refine ⟨.inr ⟨before, rfl⟩, fun piece hpiece => ?_⟩
    obtain ⟨p, ps, hp⟩ := List.exists_cons_of_ne_nil (pieces_ne_nil part)
    obtain ⟨q, qs, hq⟩ := List.exists_cons_of_ne_nil (pieces_ne_nil (')' :: rest))
    have hover : pieces (')' :: before) = (')' :: " -> ".toList ++ p) :: ps := by
      rw [hbefore, ← List.cons_append]
      exact pieces_append_of_noComma (by decide) hp
    rw [hover] at hpiece
    obtain ⟨y, hy, hstart⟩ := mem_tail_glue p q qs hpiece
    have hpieces : pieces r = glue (p :: ps) (q :: qs) := by
      rw [hr, pieces_append (by simp), hp, hq]
    intro hbegins
    refine hresult r rfl y (by rw [hpieces]; exact hy) ?_
    exact beginsWith_name_iff.mp (hbegins.extend hstart)

/-- The arguments of a signature are cut out of it, with an overhang. -/
theorem signature?_text {name args : List Char} {result : Option (List Char)} {opens : Bool}
    {ending : List Char} (hname : name ≠ []) (hchars : ∀ c ∈ name, isNameChar c = true)
    (hargs : '\n' ∉ args) (hline : '\n' ∉ tailText result opens)
    (hresult : ∀ r ∈ result, IsUnmistakable r) (hending : ending = [] ∨ ending = ['\n']) :
    ∃ extra, IsOverhang extra ∧
      signature?
        ("fn ".toList ++ (name ++ '(' :: (args ++ ')' :: (tailText result opens ++ ending)))) =
        some (args ++ extra) := by
  obtain ⟨extra, hover, hcases⟩ := arguments?_closing hargs (isTail_tailText hline hending)
  refine ⟨extra, ?_, ?_⟩
  · rcases hcases with rfl | ⟨before, after, rfl, hafter⟩
    · exact ⟨.inl rfl, by simp [pieces_nil]⟩
    · exact isOverhang_of_tail hresult hending hafter
  · obtain ⟨c, name, rfl⟩ := List.exists_cons_of_ne_nil hname
    have hvisible := isBlank_of_isNameChar (hchars c List.mem_cons_self)
    have hword : Text.stripStart? ['f', 'n'] (skipBlanks ("fn ".toList ++ (c :: name ++ '(' ::
        (args ++ ')' :: (tailText result opens ++ ending))))) =
        some (' ' :: (c :: name ++ '(' :: (args ++ ')' :: (tailText result opens ++ ending)))) :=
          rfl
    rw [signature?, hword]
    simp only [Option.bind_eq_bind, Option.bind_some]
    rw [someBlanks?_cons (by decide), List.cons_append, skipBlanks_cons hvisible,
      ← List.cons_append, Option.bind_some, List.takeWhile_append_of_pos hchars,
      List.dropWhile_append_of_pos hchars, if_neg (by simp)]
    exact hover

/-! ### Bindings -/

theorem declaration?_binding {d : Declared} (hd : d.type.IsDocumented) (ending : List Char) :
    declaration? (d.text ++ ';' :: ending) = d.reference?.map spelling := by
  obtain ⟨name, type⟩ := d
  cases type with
  | reference region referent =>
    have hline : Declared.text ⟨name, .reference region referent⟩ ++ ';' :: ending =
        '_' :: (name.digits ++ ':' :: ' ' :: (referenceMark ++ region.digits ++ 'r' :: ' ' ::
          (referent ++ ';' :: ending))) := by
      simp [Declared.text, TypeText.text]
    rw [hline]
    exact declaration?_reference name region (by decide) _
  | other text =>
    have hline : Declared.text ⟨name, .other text⟩ ++ ';' :: ending =
        '_' :: (name.digits ++ ':' :: ' ' :: (text ++ ';' :: ending)) := by
      simp [Declared.text, TypeText.text]
    rw [hline]
    refine declaration?_other name fun hmark => hd.2 (beginsWith_mark_iff.mp ?_)
    have hbegins : BeginsWith (· = referenceMark) (text ++ ';' :: ending) :=
      beginsWith_mark_iff.mpr hmark
    exact hbegins.of_stop (by decide) (by rintro _ rfl; decide)

theorem letDeclaration?_text {indent : List Char} (hindent : indent ≠ [])
    (hblanks : ∀ c ∈ indent, Text.isBlank c = true) (isMutable : Bool) {d : Declared}
    (hd : d.type.IsDocumented) (ending : List Char) :
    letDeclaration? (indent ++ ("let ".toList ++ ((if isMutable then "mut ".toList else []) ++
      (d.text ++ ';' :: ending)))) = d.reference?.map spelling := by
  obtain ⟨c, indent, rfl⟩ := List.exists_cons_of_ne_nil hindent
  rw [List.forall_mem_cons] at hblanks
  have hword : ∀ cs, Text.stripStart? "let".toList (skipBlanks ("let ".toList ++ cs)) =
      some (' ' :: cs) := fun cs => rfl
  rw [letDeclaration?, List.cons_append, someBlanks?_cons hblanks.1, skipBlanks_blanks hblanks.2]
  simp only [Option.bind_eq_bind, Option.bind_some]
  rw [hword, Option.bind_some, someBlanks?_cons (by decide), Option.bind_some,
    ← declaration?_binding hd ending]
  cases isMutable with
  | false => rfl
  | true => rfl

/-! ### Lines -/

theorem firstWord_of_stripStart? {word cs rest rest' : List Char}
    (hword : (word.all fun c => !Text.isBlank c) = true)
    (hstart : Text.stripStart? word (skipBlanks cs) = some rest)
    (hrest : someBlanks? rest = some rest') :
    firstWord cs = word := by
  rw [Spelling.stripStart?_eq_some_iff] at hstart
  rcases rest with _ | ⟨c, rest⟩
  · cases hrest
  · rw [someBlanks?] at hrest
    split at hrest
    · rename_i hc
      rw [firstWord, hstart, List.takeWhile_append_of_pos (List.all_eq_true.mp hword),
        List.takeWhile_cons, if_neg (by simp [hc]), List.append_nil]
    · cases hrest

theorem firstWord_of_signature? {cs args : List Char} (h : signature? cs = some args) :
    firstWord cs = "fn".toList := by
  simp only [signature?, Option.bind_eq_bind, Option.bind_eq_some_iff] at h
  obtain ⟨rest, hstart, rest', hrest, -⟩ := h
  exact firstWord_of_stripStart? (by decide) hstart hrest

theorem firstWord_of_letDeclaration? {cs : List Char} {x : List Char × List Char}
    (h : letDeclaration? cs = some x) : firstWord cs = "let".toList := by
  simp only [letDeclaration?, Option.bind_eq_bind, Option.bind_eq_some_iff] at h
  obtain ⟨inner, hinner, rest, hstart, rest', hrest, -⟩ := h
  rcases cs with _ | ⟨c, cs⟩
  · cases hinner
  · rw [someBlanks?] at hinner
    split at hinner
    · rename_i hc
      have hskip : skipBlanks (c :: cs) = inner := by
        rw [skipBlanks, List.dropWhile_cons, if_pos hc]
        exact Option.some_inj.mp hinner
      exact firstWord_of_stripStart? (by decide) (by rw [hskip]; exact hstart) hrest
    · cases hinner

/-- The end of a line is not part of its first word. -/
theorem firstWord_append_newline (cs : List Char) : firstWord (cs ++ ['\n']) = firstWord cs := by
  rw [firstWord, firstWord, skipBlanks, skipBlanks, List.dropWhile_append]
  split
  · rename_i hnil
    rw [List.isEmpty_iff] at hnil
    rw [hnil]
    rfl
  · rw [List.takeWhile_append]
    split
    · rename_i hlength
      have hend : (['\n'].takeWhile fun c => !Text.isBlank c) = [] := by decide
      rw [hend, List.append_nil]
      exact ((List.takeWhile_prefix _).eq_of_length hlength).symm
    · rfl

/-- A line is read as the declarations of references that it makes. -/
theorem declarations_text {line : Line} (hline : line.IsDocumented) {cs : List Char}
    (hcs : line.IsSpelledBy cs) : declarations cs = line.references.map spelling := by
  obtain ⟨ending, hending, rfl⟩ :
      ∃ ending, (ending = [] ∨ ending = ['\n']) ∧ cs = line.text ++ ending := by
    rcases hcs with rfl | rfl
    · exact ⟨[], .inl rfl, by simp⟩
    · exact ⟨['\n'], .inr rfl, rfl⟩
  cases line with
  | signature name arguments result opens =>
    obtain ⟨hnewline, hname, hchars, harguments, hresult⟩ := hline
    simp only [Line.text, List.mem_append, List.mem_cons, not_or] at hnewline
    obtain ⟨extra, hover, hsignature⟩ := signature?_text hname hchars hnewline.2.2.2.1
      hnewline.2.2.2.2.2 hresult hending
    have htext : Line.text (.signature name arguments result opens) ++ ending =
        "fn ".toList ++
          (name ++ '(' :: (Text.join [',', ' '] (arguments.map Declared.text) ++ ')' ::
          (tailText result opens ++ ending))) := by
      simp [Line.text]
    rw [declarations, htext, hsignature]
    exact filterMap_arguments harguments hover
  | binding indent isMutable d =>
    obtain ⟨-, hindent, hblanks, hd⟩ := hline
    have htext : Line.text (.binding indent isMutable d) ++ ending =
        indent ++ ("let ".toList ++ ((if isMutable then "mut ".toList else []) ++
          (d.text ++ ';' :: ending))) := by
      simp [Line.text]
    have hsignature : signature? (Line.text (.binding indent isMutable d) ++ ending) = none := by
      rw [htext, signature?, skipBlanks_blanks hblanks]
      rfl
    have hlet := letDeclaration?_text hindent hblanks isMutable hd ending
    rw [← htext] at hlet
    rw [declarations, hsignature]
    simp only [hlet, Line.references]
    rcases d.reference? with _ | x
    · rfl
    · rfl
  | other text =>
    obtain ⟨-, hfn, hlet⟩ := hline
    have hword : firstWord (text ++ ending) = firstWord text := by
      rcases hending with rfl | rfl
      · rw [List.append_nil]
      · exact firstWord_append_newline text
    have hsignature : signature? (text ++ ending) = none := by
      rw [Option.eq_none_iff_forall_ne_some]
      intro args h
      exact hfn (hword.symm.trans (firstWord_of_signature? h))
    have hdeclaration : letDeclaration? (text ++ ending) = none := by
      rw [Option.eq_none_iff_forall_ne_some]
      intro x h
      exact hlet (hword.symm.trans (firstWord_of_letDeclaration? h))
    rw [Line.text, declarations, hsignature]
    simp only [hdeclaration]
    rfl

end BorrowGraph.Listing
