/-
Atoms written and read back.

The text of an atom is read as that atom.  A text that is read need not be the text of what it
is read as, since there may be digits of any script, zeros in front and blanks around; it is
exactly if its digits are those of ASCII, without superfluous zeros in front, and nothing is
blank around it.

* `IsCanonicalRun`, `text_eq_iff_isCanonicalRun`: the run of digits that a number is written
  with;
* `IsCanonical`, `isCanonical_iff`: texts all of whose numbers are written so;
* `Layout`, `Layout.text_eq_iff`: of the spellings of an atom, the one that is written is
  canonical;
* `ReadsExactly`, `ReadsExactly.of_layout`: what is read as an atom, and how it is written;
* `atoms_readExactly`: regions, loans, points, locations and places.
-/
import BorrowGraph.Proofs.BundleEntries
import BorrowGraph.Proofs.FactFiles

namespace BorrowGraph

namespace Spelling

/-! ### Canonical runs -/

/-- A run of ASCII digits without superfluous zeros in front. -/
def IsCanonicalRun (run : List Char) : Prop :=
  (∀ c ∈ run, c.isDigit = true) ∧ (run.head? = some '0' → run = ['0'])

theorem isCanonicalRun_nil : IsCanonicalRun [] := by
  simp [IsCanonicalRun]

/-- A digit is the one written for its value. -/
theorem toDigits_of_isDigit {c : Char} (h : c.isDigit = true) :
    c.toNat - '0'.toNat < 10 ∧ Nat.toDigits 10 (c.toNat - '0'.toNat) = [c] := by
  have hbounds := toNat_of_isDigit h
  have hzero : '0'.toNat = 0x30 := rfl
  have hlt : c.toNat - '0'.toNat < 10 := by omega
  refine ⟨hlt, ?_⟩
  rw [Nat.toDigits_of_lt_base hlt, List.singleton_inj, ← Char.toNat_inj,
    Nat.toNat_digitChar_of_lt_ten hlt]
  omega

/-- Digits that follow a number are the last digits of the number they make with it. -/
theorem toDigits_ofDigitChars {run : List Char} (hrun : ∀ c ∈ run, c.isDigit = true) {k : Nat}
    (hk : 0 < k) : Nat.toDigits 10 (Nat.ofDigitChars 10 run k) = Nat.toDigits 10 k ++ run := by
  induction run generalizing k with
  | nil => rw [Nat.ofDigitChars_nil, List.append_nil]
  | cons c run ih =>
    rw [List.forall_mem_cons] at hrun
    obtain ⟨hlt, hc⟩ := toDigits_of_isDigit hrun.1
    calc Nat.toDigits 10 (Nat.ofDigitChars 10 (c :: run) k)
        = Nat.toDigits 10 (10 * k + (c.toNat - '0'.toNat)) ++ run := by
          rw [Nat.ofDigitChars_cons, ih hrun.2 (by omega)]
      _ = Nat.toDigits 10 k ++ [c] ++ run := by
          rw [← Nat.toDigits_append_toDigits (by decide) hk hlt, hc]
      _ = Nat.toDigits 10 k ++ c :: run := by
          rw [List.append_assoc, List.singleton_append]

/-- A canonical run is the one its value is written with. -/
theorem toDigits_of_isCanonicalRun {run : List Char} (hne : run ≠ []) (h : IsCanonicalRun run) :
    Nat.toDigits 10 (Nat.ofDigitChars 10 run 0) = run := by
  obtain ⟨hdigits, hzero⟩ := h
  cases run with
  | nil => exact absurd rfl hne
  | cons c run =>
    by_cases hc : c = '0'
    · rw [hzero (by rw [hc]; rfl)]
      rfl
    · rw [List.forall_mem_cons] at hdigits
      obtain ⟨hlt, hfirst⟩ := toDigits_of_isDigit hdigits.1
      -- The first digit is a number of its own, and it is not zero.
      have hpos : 0 < c.toNat - '0'.toNat := by
        refine Nat.pos_of_ne_zero fun hnone => hc ?_
        rw [hnone, Nat.toDigits_zero] at hfirst
        exact (List.singleton_inj.mp hfirst).symm
      rw [Nat.ofDigitChars_cons, Nat.mul_zero, Nat.zero_add, toDigits_ofDigitChars hdigits.2 hpos,
        hfirst, List.singleton_append]

/-- Only zero is written with a zero in front. -/
theorem eq_zero_of_head_toDigits (n : Nat) (h : (Nat.toDigits 10 n).head? = some '0') : n = 0 := by
  induction n using Nat.strong_induction_on with
  | h n ih =>
    by_cases hn : n < 10
    · rw [Nat.toDigits_of_lt_base hn, List.head?_cons, Option.some_inj] at h
      exact Nat.digitChar_eq_zero.mp h
    · have hle : 10 ≤ n := Nat.le_of_not_lt hn
      -- The first digit is that of the number without its last digit.
      rw [Nat.toDigits_of_base_le (by decide) hle,
        List.head?_append_of_ne_nil _ Nat.toDigits_ne_nil] at h
      have hshorter := ih (n / 10) (by omega) h
      omega

theorem isCanonicalRun_toDigits (n : Nat) : IsCanonicalRun (Nat.toDigits 10 n) := by
  refine ⟨fun c hc => Nat.isDigit_of_mem_toDigits (by decide) (by decide) hc, fun h => ?_⟩
  rw [eq_zero_of_head_toDigits n h]
  exact Nat.toDigits_zero 10

/-- Of the numerals for a number, the one it is written with is canonical. -/
theorem text_eq_iff_isCanonicalRun {run : List Char} {n : Int} (h : IsNumeral run n) :
    (Decimal.text n).toList = run ↔ IsCanonicalRun run := by
  obtain ⟨hne, -, hnumber⟩ := isNumeral_iff.mp h
  obtain ⟨-, rfl⟩ := number_eq_ok_iff.mp hnumber
  rw [toList_text]
  constructor
  · intro htext
    rw [← htext]
    exact isCanonicalRun_toDigits _
  · intro hcanonical
    rw [digitsValue_of_ascii hcanonical.1, toDigits_of_isCanonicalRun hne hcanonical]

/-! ### Canonical texts -/

/-- A text all of whose runs of digits are canonical; the runs stand between the characters
that are not digits. -/
def IsCanonical (cs : List Char) : Prop :=
  ∀ run ∈ cs.splitOnP fun c => !Text.isDigit c, IsCanonicalRun run

theorem isCanonical_append_of_mark {m rest : List Char} (hm : ∀ c ∈ m, Text.isDigit c = false) :
    IsCanonical (m ++ rest) ↔ IsCanonical rest := by
  induction m with
  | nil => rfl
  | cons c m ih =>
    rw [List.forall_mem_cons] at hm
    rw [← ih hm.2, IsCanonical, List.cons_append, List.splitOnP_cons_eq_if_modifyHead,
      if_pos (by simp [hm.1]), List.forall_mem_cons, and_iff_right isCanonicalRun_nil, IsCanonical]

theorem isCanonical_append_of_run {run rest : List Char} (hrun : ∀ c ∈ run, Text.isDigit c = true)
    (hrest : ∀ c ∈ rest.head?, Text.isDigit c = false) :
    IsCanonical (run ++ rest) ↔ IsCanonicalRun run ∧ IsCanonical rest := by
  have hdigits : ∀ c ∈ run, (!Text.isDigit c) = false :=
    fun c hc => by rw [hrun c hc, Bool.not_true]
  cases rest with
  | nil =>
    rw [List.append_nil, IsCanonical, IsCanonical, List.splitOnP_eq_singleton hdigits,
      List.splitOnP_nil, List.forall_mem_singleton, List.forall_mem_singleton,
      and_iff_left isCanonicalRun_nil]
  | cons c rest =>
    -- The character behind the run is not a digit, so that the run ends there.
    have hc : Text.isDigit c = false := hrest c rfl
    rw [IsCanonical, List.splitOnP_append_cons_of_forall_mem hdigits c (by simp [hc]),
      List.forall_mem_cons, ← List.singleton_append,
      isCanonical_append_of_mark (List.forall_mem_singleton.mpr hc), IsCanonical]

/-- A piece that is made of digits, or of characters that are neither digits nor blanks. -/
def Piece.isApart : Piece → Bool
  | .mark m => m.toList.all fun c => !Text.isDigit c && !Text.isBlank c
  | .digits => true

theorem Piece.isApart_mark {m : String} (h : (Piece.mark m).isApart = true) :
    ∀ c ∈ m.toList, Text.isDigit c = false ∧ Text.isBlank c = false := by
  intro c hc
  simpa using List.all_eq_true.mp h c hc

/-- The runs of a spelled text are those it is spelled with. -/
theorem isCanonical_iff {pieces : List Piece} (hseparated : isSeparated pieces = true)
    (hapart : pieces.all Piece.isApart = true) {runs : List (List Char)} {cs : List Char}
    (h : Spelled pieces runs cs) : IsCanonical cs ↔ ∀ run ∈ runs, IsCanonicalRun run := by
  induction pieces generalizing runs cs with
  | nil =>
    obtain ⟨rfl, rfl⟩ := h
    simp [IsCanonical, isCanonicalRun_nil]
  | cons piece pieces ih =>
    rw [List.all_cons, Bool.and_eq_true] at hapart
    cases piece with
    | mark m =>
      obtain ⟨rest, rfl, hrest⟩ := h
      rw [isCanonical_append_of_mark fun c hc => (Piece.isApart_mark hapart.1 c hc).1,
        ih hseparated hapart.2 hrest]
    | digits =>
      rw [isSeparated, Bool.and_eq_true] at hseparated
      obtain ⟨run, rest, runs, rfl, rfl, -, hrun, hrest⟩ := h
      rw [isCanonical_append_of_run hrun (head_of_spelled hseparated.1 hrest),
        ih hseparated.2 hapart.2 hrest, List.forall_mem_cons]

/-- Nothing in a spelled text is blank. -/
theorem isBlank_of_spelled {pieces : List Piece} (hapart : pieces.all Piece.isApart = true)
    {runs : List (List Char)} {cs : List Char} (h : Spelled pieces runs cs) :
    ∀ c ∈ cs, Text.isBlank c = false := by
  induction pieces generalizing runs cs with
  | nil =>
    obtain ⟨-, rfl⟩ := h
    simp
  | cons piece pieces ih =>
    rw [List.all_cons, Bool.and_eq_true] at hapart
    cases piece with
    | mark m =>
      obtain ⟨rest, rfl, hrest⟩ := h
      exact List.forall_mem_append.mpr
        ⟨fun c hc => (Piece.isApart_mark hapart.1 c hc).2, ih hapart.2 hrest⟩
    | digits =>
      obtain ⟨run, rest, runs, rfl, rfl, -, hrun, hrest⟩ := h
      exact List.forall_mem_append.mpr
        ⟨fun c hc => isBlank_of_isDigit (hrun c hc), ih hapart.2 hrest⟩

/-! ### Layouts -/

/-- The runs of digits that numbers are written with. -/
def texts (numbers : List Int) : List (List Char) :=
  numbers.map fun n => (Decimal.text n).toList

theorem texts_eq_iff {runs : List (List Char)} {numbers : List Int}
    (h : List.Forall₂ IsNumeral runs numbers) :
    texts numbers = runs ↔ ∀ run ∈ runs, IsCanonicalRun run := by
  induction h with
  | nil => simp [texts]
  | cons hrun _ ih =>
    rw [List.forall_mem_cons, ← ih, ← text_eq_iff_isCanonicalRun hrun]
    exact List.cons_eq_cons

/-- Numbers that have numerals are not negative, so that no sign is written. -/
theorem exists_toDigits_of_mem_texts {runs : List (List Char)} {numbers : List Int}
    (h : List.Forall₂ IsNumeral runs numbers) :
    ∀ run ∈ texts numbers, ∃ k, run = Nat.toDigits 10 k := by
  induction h with
  | nil => simp [texts]
  | cons hrun _ ih =>
    obtain ⟨digits, -, -, -, rfl⟩ := hrun
    exact List.forall_mem_cons.mpr ⟨⟨_, toList_text _⟩, ih⟩

/-- How atoms are laid out: marks, and numbers between them. -/
structure Layout (α : Type) where
  pieces : α → List Piece
  numbers : α → List Int
  separated : ∀ a, isSeparated (pieces a) = true
  apart : ∀ a, (pieces a).all Piece.isApart = true
  length_numbers : ∀ a, (numbers a).length = (pieces a).count .digits

namespace Layout

variable {α : Type} (L : Layout α) {a : α} {cs : List Char}

/-- An atom as it is written. -/
def text (a : α) : List Char :=
  filled (L.pieces a) (texts (L.numbers a))

theorem isTrimmed_of_spelled {runs : List (List Char)} (h : Spelled (L.pieces a) runs cs) :
    Text.IsTrimmed cs cs :=
  Text.isTrimmed_self (isBlank_of_spelled (L.apart a) h)

variable (h : Spells (L.pieces a) (L.numbers a) cs)
include h

theorem spelled_text : Spelled (L.pieces a) (texts (L.numbers a)) (L.text a) := by
  obtain ⟨runs, hruns, -⟩ := h
  refine spelled_iff.mpr ⟨?_, fun run hrun => ?_, rfl⟩
  · rw [texts, List.length_map, L.length_numbers]
  · obtain ⟨k, rfl⟩ := exists_toDigits_of_mem_texts hruns run hrun
    exact ⟨Nat.toDigits_ne_nil, fun c hc =>
      isDigit_of_ascii (Nat.isDigit_of_mem_toDigits (by decide) (by decide) hc)⟩

theorem isCanonical_text : IsCanonical (L.text a) := by
  rw [isCanonical_iff (L.separated a) (L.apart a) (L.spelled_text h)]
  intro run hrun
  obtain ⟨runs, hruns, -⟩ := h
  obtain ⟨k, rfl⟩ := exists_toDigits_of_mem_texts hruns run hrun
  exact isCanonicalRun_toDigits k

/-- Of the spellings with the same numbers, the one that is written is canonical. -/
theorem text_eq_iff : L.text a = cs ↔ IsCanonical cs := by
  constructor
  · rintro rfl
    exact L.isCanonical_text h
  · intro hcanonical
    obtain ⟨runs, hruns, hspelled⟩ := (spells_iff (L.length_numbers a)).mp h
    rw [isCanonical_iff (L.separated a) (L.apart a) hspelled] at hcanonical
    obtain ⟨-, -, hfilled⟩ := spelled_iff.mp hspelled
    rw [text, (texts_eq_iff hruns).mpr hcanonical, hfilled]

end Layout

/-! ### Reading and writing -/

/-- A reader of atoms and the texts they are written as.  What is read are the spellings of an
atom: what stands around them is cut off first, and a line end may be left behind.  Of the
texts that are read as an atom, the one that is written is canonical and has nothing blank
around it. -/
structure ReadsExactly {α : Type} (read : String → Except Fault α) (text : α → String)
    (isSpelling : α → List Char → Prop) (isCut : List Char → List Char → Prop)
    (isWritable : α → Prop) : Prop where
  read_text : ∀ a, isWritable a → read (text a) = .ok a
  read_iff : ∀ s a, read s = .ok a ↔
    ∃ cut body, isCut s.toList cut ∧ IsLine body cut ∧ isSpelling a body
  text_iff : ∀ s a, read s = .ok a →
    (text a = s ↔ IsCanonical s.toList ∧ Text.IsTrimmed s.toList s.toList)

/-- Text with nothing blank around it has no line end behind it. -/
theorem eq_of_isLine {body cs : List Char} (h : IsLine body cs) (hcs : Text.IsTrimmed cs cs) :
    cs = body := by
  obtain rfl | rfl := h
  · rfl
  · exact absurd (hcs.last '\n' (by simp)) (by decide)

namespace ReadsExactly

variable {α : Type} {read : String → Except Fault α} {text : α → String}
variable {isSpelling : α → List Char → Prop} {isCut : List Char → List Char → Prop}
variable {isWritable : α → Prop} (L : Layout α)
variable (hspelling : ∀ a cs, isSpelling a cs →
  Spells (L.pieces a) (L.numbers a) cs ∧ (text a).toList = L.text a)
variable (hwritable : ∀ a, isWritable a → isSpelling a (text a).toList)
include hspelling hwritable

/-- Atoms that are laid out with marks and numbers are read exactly, if what is cut off is blank. -/
theorem of_layout (hcut : ∀ cs cut, Text.IsTrimmed cs cs → (isCut cs cut ↔ cs = cut))
    (hread : ∀ s a, read s = .ok a ↔
      ∃ cut body, isCut s.toList cut ∧ IsLine body cut ∧ isSpelling a body) :
    ReadsExactly read text isSpelling isCut isWritable where
  read_text a ha := by
    have hself := hwritable a ha
    obtain ⟨hspells, htext⟩ := hspelling a _ hself
    have htrimmed : Text.IsTrimmed (text a).toList (text a).toList := by
      rw [htext]
      exact L.isTrimmed_of_spelled (L.spelled_text hspells)
    exact (hread _ a).mpr ⟨_, _, (hcut _ _ htrimmed).mpr rfl, .inl rfl, hself⟩
  read_iff := hread
  text_iff s a hs := by
    obtain ⟨cut, body, hsplit, hline, hbody⟩ := (hread s a).mp hs
    obtain ⟨hspells, htext⟩ := hspelling a body hbody
    constructor
    · rintro rfl
      rw [htext]
      exact ⟨L.isCanonical_text hspells, L.isTrimmed_of_spelled (L.spelled_text hspells)⟩
    · rintro ⟨hcanonical, htrimmed⟩
      -- Nothing is cut off, so that the whole text is the spelling.
      obtain rfl := (hcut _ _ htrimmed).mp hsplit
      obtain rfl := eq_of_isLine hline htrimmed
      rw [← String.toList_inj, htext]
      exact (L.text_eq_iff hspells).mpr hcanonical

theorem of_layout_whole
    (hread : ∀ s a, read s = .ok a ↔ ∃ body, isSpelling a body ∧ IsLine body s.toList) :
    ReadsExactly read text isSpelling Eq isWritable := by
  refine of_layout L hspelling hwritable (fun cs cut _ => Iff.rfl) fun s a => ?_
  simp [hread, and_comm]

theorem of_layout_trimmed
    (hread : ∀ s a, read s = .ok a ↔ ∃ body, isSpelling a body ∧ IsLine body (Text.trim s.toList)) :
    ReadsExactly read text isSpelling Text.IsTrimmed isWritable := by
  refine of_layout L hspelling hwritable (fun cs cut hcs => ?_) fun s a => ?_
  · rw [Text.isTrimmed_iff, Text.isTrimmed_iff.mp hcs]
  · simp [hread, Text.isTrimmed_iff, and_comm]

end ReadsExactly

end Spelling

open Spelling

/-! ### Atoms -/

namespace Region

def layout : Layout Region where
  pieces _ := pieces
  numbers r := [r]
  separated _ := by decide
  apart _ := by decide
  length_numbers _ := rfl

theorem readsExactly : ReadsExactly read text IsSpelling Eq FactStore.IsWritable := by
  refine .of_layout_whole layout (fun r cs h => ⟨isSpelling_iff.mp h, ?_⟩)
    (fun r hr => isSpelling_text hr.1 hr.2) fun s r => read_eq_ok_iff_isLine
  simp [text, Layout.text, layout, pieces, texts, filled]

end Region

namespace Loan

def layout : Layout Loan where
  pieces _ := pieces
  numbers l := [l]
  separated _ := by decide
  apart _ := by decide
  length_numbers _ := rfl

theorem readsExactly : ReadsExactly read text IsSpelling Eq FactStore.IsWritable := by
  refine .of_layout_whole layout (fun l cs h => ⟨isSpelling_iff.mp h, ?_⟩)
    (fun l hl => isSpelling_text hl.1 hl.2) fun s l => read_eq_ok_iff_isLine
  simp [text, Layout.text, layout, pieces, texts, filled]

end Loan

namespace Location

/-- A location both of whose numbers can be written down. -/
def IsWritable (l : Location) : Prop :=
  FactStore.IsWritable l.block ∧ FactStore.IsWritable l.index

def layout : Layout Location where
  pieces _ := pieces
  numbers l := [l.block, l.index]
  separated _ := by decide
  apart _ := by decide
  length_numbers _ := rfl

theorem readsExactly : ReadsExactly read text IsSpelling Text.IsTrimmed IsWritable := by
  refine .of_layout_trimmed layout (fun l cs h => ⟨isSpelling_iff.mp h, ?_⟩)
    (fun l hl => isSpelling_text hl.1.1 hl.1.2 hl.2.1 hl.2.2) fun s l => read_eq_ok_iff_isLine
  simp [text, Layout.text, layout, pieces, texts, filled]

end Location

namespace Point

def layout : Layout Point where
  pieces p := pieces p.phase
  numbers p := [p.location.block, p.location.index]
  separated p := isSeparated_pieces p.phase
  apart p := by cases p.phase <;> decide
  length_numbers p := (count_digits_pieces p.phase).symm

theorem readsExactly : ReadsExactly read text IsSpelling Eq fun p => p.location.IsWritable := by
  refine .of_layout_whole layout (fun p cs h => ⟨isSpelling_iff.mp h, ?_⟩)
    (fun p hp => isSpelling_text hp.1.1 hp.1.2 hp.2.1 hp.2.2) fun s p => read_eq_ok_iff_isLine
  simp [text, Location.text, Layout.text, layout, pieces, Location.pieces, texts, filled]

end Point

namespace Place

/-- The spellings of a place: those of a local, for the local as a whole. -/
def IsSpelling (p : Place) (cs : List Char) : Prop :=
  p.isLocal = true ∧ Local.IsSpelling p.base cs

/-- A local as a whole whose number can be written down. -/
def IsWritable (p : Place) : Prop :=
  p.isLocal = true ∧ FactStore.IsWritable p.base

def layout : Layout Place where
  pieces _ := Local.pieces
  numbers p := [p.base]
  separated _ := by decide
  apart _ := by decide
  length_numbers _ := rfl

theorem text_of_isLocal {p : Place} (h : p.isLocal = true) : p.text = Local.text p.base := by
  rw [text, List.isEmpty_iff.mp h, String.join_nil, String.append_empty]

theorem read_text_eq_ok_iff {s : String} {p : Place} :
    read (.text s) = .ok p ↔ p.isLocal = true ∧ Local.read s = .ok p.base := by
  rw [read, bind_eq_ok]
  constructor
  · rintro ⟨n, hn, ⟨⟩⟩
    exact ⟨rfl, hn⟩
  · rintro ⟨hlocal, hbase⟩
    exact ⟨p.base, hbase, by rw [← List.isEmpty_iff.mp hlocal]; rfl⟩

theorem readsExactly :
    ReadsExactly (fun s => read (.text s)) text IsSpelling Text.IsTrimmed IsWritable := by
  refine .of_layout_trimmed layout (fun p cs h => ⟨Local.isSpelling_iff.mp h.2, ?_⟩)
    (fun p hp => ?_)
    fun s p => ?_
  · simp [text_of_isLocal h.1, Local.text, Layout.text, layout, Local.pieces, texts, filled]
  · rw [text_of_isLocal hp.1]
    exact ⟨hp.1, Local.isSpelling_text hp.2.1 hp.2.2⟩
  · simp only [read_text_eq_ok_iff, Local.read_eq_ok_iff_isLine, IsSpelling, and_assoc,
      exists_and_left]

end Place

/-- Regions, loans and points are read from their spellings, and locations and spelled places
from theirs with blanks around them; what is written for one of them is its canonical
spelling. -/
theorem atoms_readExactly :
    ReadsExactly Region.read Region.text Region.IsSpelling Eq FactStore.IsWritable ∧
      ReadsExactly Loan.read Loan.text Loan.IsSpelling Eq FactStore.IsWritable ∧
      ReadsExactly Point.read Point.text Point.IsSpelling Eq (fun p => p.location.IsWritable) ∧
      ReadsExactly Location.read Location.text Location.IsSpelling Text.IsTrimmed
        Location.IsWritable ∧
      ReadsExactly (fun s => Place.read (.text s)) Place.text Place.IsSpelling Text.IsTrimmed
        Place.IsWritable ∧
      ∀ n : Local, Place.text ⟨n, []⟩ = Local.text n :=
  ⟨Region.readsExactly, Loan.readsExactly, Point.readsExactly, Location.readsExactly,
    Place.readsExactly, fun _ => Place.text_of_isLocal rfl⟩

/-- Two texts are read as one loan, and one of them is what is written for it. -/
theorem seventhLoan_readExactly :
    FactStore.IsWritable 7 ∧ Loan.read (Loan.text 7) = .ok 7 ∧
      (Loan.read "bw7" = .ok 7 ∧ IsCanonical "bw7".toList ∧
        Text.IsTrimmed "bw7".toList "bw7".toList) ∧
      (Loan.read "bw٠٠٧\n" = .ok 7 ∧
        ¬ (IsCanonical "bw٠٠٧\n".toList ∧ Text.IsTrimmed "bw٠٠٧\n".toList "bw٠٠٧\n".toList)) := by
  have hloans := atoms_readExactly.2.1
  have hwritable : FactStore.IsWritable 7 := by decide
  have hplain : Loan.read "bw7" = .ok 7 := by decide +kernel
  have hpadded : Loan.read "bw٠٠٧\n" = .ok 7 := by decide +kernel
  refine ⟨hwritable, hloans.read_text 7 hwritable,
    ⟨hplain, (hloans.text_iff _ _ hplain).mp (by decide +kernel)⟩, hpadded, fun hcanonical => ?_⟩
  exact absurd ((hloans.text_iff _ _ hpadded).mpr hcanonical) (by decide +kernel)

example : Location.read "\t bb3[012]\n\n" = .ok ⟨3, 12⟩ ∧ Location.text ⟨3, 12⟩ = "bb3[12]" := by
  decide +kernel

end BorrowGraph
