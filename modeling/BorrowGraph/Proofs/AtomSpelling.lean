/-
Spellings of atoms.

An atom is spelled with marks around runs of digits.  What is read as an atom are exactly its
spellings, of which there are many: digits may come from any script, zeros may stand in front,
and a line end may follow.  The text of an atom is one of them.

* `Spelling.IsNumeral`: a run of digits and the number it stands for, `isNumeral_iff`;
* `Spelling.Spelled`, `scan_eq_some_iff_isLine`: what is cut into marks and runs of digits;
* `Spelling.Spells`, `exists_scan_iff`: the numbers that are read from a text;
* `Region.IsSpelling`, `Loan.IsSpelling`, …, `Point.IsSpelling`: the spellings of an atom, with
  `read_eq_ok_iff_isLine` for each of them.
-/
import BorrowGraph.Point
import Mathlib.Data.List.Basic
import Mathlib.Data.List.Forall2
import Mathlib.Data.List.TakeWhile
import Mathlib.Data.Nat.Digits.Defs

namespace BorrowGraph

/-! ### Numerals -/

namespace Spelling

/-- A run of at most 4300 decimal digits that stands for a number. -/
def IsNumeral (run : List Char) (n : Int) : Prop :=
  ∃ digits : List Nat, run.map Text.digitValue? = digits.map some ∧ digits ≠ [] ∧
    digits.length ≤ 4300 ∧ n = (Nat.ofDigits 10 digits.reverse : Nat)

theorem foldl_digits (digits : List Nat) (n : Nat) :
    digits.foldl (fun n d => 10 * n + d) n =
      10 ^ digits.length * n + Nat.ofDigits 10 digits.reverse := by
  induction digits generalizing n with
  | nil => simp
  | cons d digits ih =>
    rw [List.foldl_cons, ih, List.reverse_cons, Nat.ofDigits_append, List.length_reverse,
      List.length_cons, pow_succ, Nat.ofDigits_singleton]
    ring

theorem digitsValue_eq {run : List Char} {digits : List Nat}
    (h : run.map Text.digitValue? = digits.map some) :
    Text.digitsValue run = Nat.ofDigits 10 digits.reverse := by
  have hdigits : digits = run.map fun c => (Text.digitValue? c).getD 0 := by
    have hmap := congrArg (List.map fun d : Option Nat => d.getD 0) h
    simpa [List.map_map, Function.comp_def] using hmap.symm
  have hfold := foldl_digits digits 0
  rw [Nat.mul_zero, Nat.zero_add] at hfold
  rw [← hfold, Text.digitsValue, hdigits, List.foldl_map]

theorem number_of_long {run : List Char} (h : Decimal.digitLimit < run.length) :
    number run = .error (.tooManyDigits run.length) := by
  rw [number, Decimal.readDigits, if_neg (Nat.not_le_of_lt h)]
  rfl

theorem number_eq_ok_iff {run : List Char} {n : Int} :
    number run = .ok n ↔ run.length ≤ 4300 ∧ n = Text.digitsValue run := by
  rw [number, Decimal.readDigits, Decimal.digitLimit]
  split
  · rename_i k hk
    split at hk
    · rename_i hlength
      obtain rfl := Except.ok.inj hk
      simp [hlength, eq_comm]
    · cases hk
  · rename_i e he
    split at he
    · cases he
    · rename_i hlength
      simp [hlength]

/-- Numerals are the runs of digits that are read. -/
theorem isNumeral_iff {run : List Char} {n : Int} :
    IsNumeral run n ↔ run ≠ [] ∧ (∀ c ∈ run, Text.isDigit c = true) ∧ number run = .ok n := by
  rw [number_eq_ok_iff]
  constructor
  · rintro ⟨digits, hdigits, hne, hlength, rfl⟩
    have hsame : run.length = digits.length := by
      simpa using congrArg List.length hdigits
    refine ⟨?_, fun c hc => ?_, by omega, ?_⟩
    · rintro rfl
      exact hne (List.length_eq_zero_iff.mp hsame.symm)
    · have hmem : Text.digitValue? c ∈ digits.map some := hdigits ▸ List.mem_map_of_mem hc
      obtain ⟨d, -, hd⟩ := List.mem_map.mp hmem
      rw [Text.isDigit, ← hd]
      rfl
    · rw [digitsValue_eq hdigits]
  · rintro ⟨hne, hdigit, hlength, rfl⟩
    have hdigits : run.map Text.digitValue? =
        (run.map fun c => (Text.digitValue? c).getD 0).map some := by
      rw [List.map_map]
      refine List.map_congr_left fun c hc => ?_
      obtain ⟨d, hd⟩ := Option.isSome_iff_exists.mp (hdigit c hc)
      simp [hd]
    refine ⟨_, hdigits, by simpa using hne, by simpa using hlength, ?_⟩
    rw [digitsValue_eq hdigits]

/-! ### Decimal text -/

theorem toNat_of_isDigit {c : Char} (h : c.isDigit = true) : 0x30 ≤ c.toNat ∧ c.toNat ≤ 0x39 := by
  simp only [Char.isDigit, Bool.and_eq_true, decide_eq_true_eq] at h
  exact h

theorem digitValue?_of_isDigit {c : Char} (h : c.isDigit = true) :
    Text.digitValue? c = some (c.toNat - '0'.toNat) := by
  have hbounds : 0x30 ≤ c.toNat ∧ c.toNat < 0x30 + 10 := by
    obtain ⟨hlow, hhigh⟩ := toNat_of_isDigit h
    omega
  rw [Text.digitValue?, Text.digitZeros, List.find?_cons_of_pos (by simpa using hbounds)]
  rfl

theorem isDigit_of_ascii {c : Char} (h : c.isDigit = true) : Text.isDigit c = true := by
  rw [Text.isDigit, digitValue?_of_isDigit h]
  rfl

theorem digitsValue_of_ascii {run : List Char} (h : ∀ c ∈ run, c.isDigit = true) :
    Text.digitsValue run = Nat.ofDigitChars 10 run 0 := by
  rw [Nat.ofDigitChars_eq_foldl, Text.digitsValue]
  refine List.foldl_ext _ _ _ fun k c hc => ?_
  rw [digitValue?_of_isDigit (h c hc)]
  rfl

/-- The decimal digits of a number are a numeral for it. -/
theorem isNumeral_toDigits {n : Nat} (h : (Nat.toDigits 10 n).length ≤ 4300) :
    IsNumeral (Nat.toDigits 10 n) n := by
  have hascii : ∀ c ∈ Nat.toDigits 10 n, c.isDigit = true := fun c hc =>
    Nat.isDigit_of_mem_toDigits (by decide) (by decide) hc
  refine isNumeral_iff.mpr ⟨Nat.toDigits_ne_nil, fun c hc => isDigit_of_ascii (hascii c hc),
    number_eq_ok_iff.mpr ⟨h, ?_⟩⟩
  rw [digitsValue_of_ascii hascii, Nat.ofDigitChars_ten_toDigits]

theorem toList_text (k : Nat) : (Decimal.text (k : Int)).toList = Nat.toDigits 10 k := by
  show (Nat.repr k).toList = _
  rw [Nat.repr_eq_ofList_toDigits, String.toList_ofList]

theorem dash_not_mem_toDigits (n : Nat) : '-' ∉ Nat.toDigits 10 n := fun h =>
  absurd (Nat.isDigit_of_mem_toDigits (by decide) (by decide) h) (by decide)

theorem toList_text_negSucc (k : Nat) :
    (Decimal.text (.negSucc k)).toList = '-' :: Nat.toDigits 10 (k + 1) := by
  rw [Decimal.text, String.toList_append, Nat.toList_repr]
  rfl

theorem isNumeral_text {n : Int} (hn : 0 ≤ n) (hfits : Decimal.fits n = true) :
    IsNumeral (Decimal.text n).toList n := by
  obtain ⟨k, rfl⟩ := Int.eq_ofNat_of_zero_le hn
  have hlength : (Nat.toDigits 10 k).length ≤ 4300 := of_decide_eq_true hfits
  rw [toList_text]
  exact isNumeral_toDigits hlength

/-! ### Marks and digits -/

/-- A text that is spelled in the given pieces, with its runs of digits. -/
def Spelled : List Piece → List (List Char) → List Char → Prop
  | [], runs, cs => runs = [] ∧ cs = []
  | .mark m :: pieces, runs, cs => ∃ rest, cs = m.toList ++ rest ∧ Spelled pieces runs rest
  | .digits :: pieces, runs, cs => ∃ run rest runs', cs = run ++ rest ∧ runs = run :: runs' ∧
      run ≠ [] ∧ (∀ c ∈ run, Text.isDigit c = true) ∧ Spelled pieces runs' rest

/-- No text in the given pieces begins with a digit. -/
def beginsApart : List Piece → Bool
  | [] => true
  | .mark m :: _ => m.toList.head?.any fun c => !Text.isDigit c
  | .digits :: _ => false

/-- Where a run of digits ends can be told from what follows. -/
def isSeparated : List Piece → Bool
  | [] => true
  | .mark _ :: pieces => isSeparated pieces
  | .digits :: pieces => beginsApart pieces && isSeparated pieces

theorem head_of_spelled {pieces : List Piece} (h : beginsApart pieces = true)
    {runs : List (List Char)} {cs : List Char} (hcs : Spelled pieces runs cs) :
    ∀ c ∈ cs.head?, Text.isDigit c = false := by
  intro c hc
  cases pieces with
  | nil =>
    obtain ⟨-, rfl⟩ := hcs
    cases hc
  | cons piece pieces =>
    cases piece with
    | digits => cases h
    | mark m =>
      obtain ⟨rest, rfl, -⟩ := hcs
      rw [beginsApart] at h
      rcases hm : m.toList with _ | ⟨d, m'⟩
      · rw [hm] at h
        cases h
      · rw [hm] at h hc
        obtain rfl : d = c := Option.some_inj.mp hc
        simpa using h

theorem stripStart?_eq_some_iff {start cs rest : List Char} :
    Text.stripStart? start cs = some rest ↔ cs = start ++ rest := by
  induction start generalizing cs with
  | nil => simp [Text.stripStart?]
  | cons s start ih =>
    rcases cs with _ | ⟨c, cs⟩
    · simp [Text.stripStart?]
    · rw [Text.stripStart?]
      split
      · rename_i hs
        rw [ih, hs, List.cons_append, List.cons.injEq, and_iff_right rfl]
      · rename_i hs
        simp [Ne.symm hs]

/-- A run of digits is cut off where it ends. -/
theorem span_digits {run rest : List Char} (hrun : ∀ c ∈ run, Text.isDigit c = true)
    (hrest : ∀ c ∈ rest.head?, Text.isDigit c = false) :
    (run ++ rest).takeWhile Text.isDigit = run ∧ (run ++ rest).dropWhile Text.isDigit = rest := by
  rw [List.takeWhile_append_of_pos hrun, List.dropWhile_append_of_pos hrun]
  rcases rest with _ | ⟨c, rest⟩
  · simp
  · have hc := hrest c rfl
    simp [hc]

/-- A text with at most one line end behind it. -/
def IsLine (body cs : List Char) : Prop :=
  cs = body ∨ cs = body ++ ['\n']

theorem isLine_append_iff {start body cs : List Char} :
    IsLine (start ++ body) cs ↔ ∃ rest, cs = start ++ rest ∧ IsLine body rest := by
  constructor
  · rintro (rfl | rfl)
    · exact ⟨body, rfl, .inl rfl⟩
    · exact ⟨body ++ ['\n'], List.append_assoc .., .inr rfl⟩
  · rintro ⟨rest, rfl, rfl | rfl⟩
    · exact .inl rfl
    · exact .inr (List.append_assoc ..).symm

/-- Text without a line end stands for itself. -/
theorem exists_isLine_iff {P : List Char → Prop} {cs : List Char} (hcs : '\n' ∉ cs) :
    (∃ body, P body ∧ IsLine body cs) ↔ P cs := by
  constructor
  · rintro ⟨body, hbody, rfl | rfl⟩
    · exact hbody
    · exact absurd (List.mem_append_right _ (List.mem_singleton_self _)) hcs
  · exact fun h => ⟨cs, h, .inl rfl⟩

theorem head_of_isLine {body cs : List Char} (h : IsLine body cs)
    (hbody : ∀ c ∈ body.head?, Text.isDigit c = false) :
    ∀ c ∈ cs.head?, Text.isDigit c = false := by
  obtain rfl | rfl := h
  · exact hbody
  · cases body with
    | nil =>
      rintro c ⟨⟩
      decide
    | cons b body => exact hbody

/-- Text is cut into the pieces it is spelled in, up to a line end. -/
theorem scan_eq_some_iff_isLine {pieces : List Piece} (h : isSeparated pieces = true)
    {runs : List (List Char)} {cs : List Char} :
    scan pieces cs = some runs ↔ ∃ body, Spelled pieces runs body ∧ IsLine body cs := by
  induction pieces generalizing runs cs with
  | nil =>
    rw [scan, Option.ite_none_right_eq_some]
    constructor
    · rintro ⟨hcs, ⟨⟩⟩
      exact ⟨[], ⟨rfl, rfl⟩, hcs⟩
    · rintro ⟨_, ⟨rfl, rfl⟩, hline⟩
      exact ⟨hline, rfl⟩
  | cons piece pieces ih =>
    cases piece with
    | mark m =>
      rw [scan, Option.bind_eq_some_iff]
      constructor
      · rintro ⟨rest, hrest, hscan⟩
        obtain ⟨body, hbody, hline⟩ := (ih h).mp hscan
        exact ⟨_, ⟨body, rfl, hbody⟩,
          isLine_append_iff.mpr ⟨rest, stripStart?_eq_some_iff.mp hrest, hline⟩⟩
      · rintro ⟨_, ⟨body, rfl, hbody⟩, hcs⟩
        obtain ⟨rest, rfl, hline⟩ := isLine_append_iff.mp hcs
        exact ⟨rest, stripStart?_eq_some_iff.mpr rfl, (ih h).mpr ⟨body, hbody, hline⟩⟩
    | digits =>
      rw [isSeparated, Bool.and_eq_true] at h
      rw [scan]
      constructor
      · intro hscan
        split at hscan
        · cases hscan
        · rename_i hne
          obtain ⟨runs', hruns', rfl⟩ := Option.map_eq_some_iff.mp hscan
          obtain ⟨body, hbody, hline⟩ := (ih h.2).mp hruns'
          refine ⟨_, ⟨cs.takeWhile Text.isDigit, body, runs', rfl, rfl, by simpa using hne,
            fun c hc => List.mem_takeWhile_imp hc, hbody⟩, isLine_append_iff.mpr ⟨_, ?_, hline⟩⟩
          exact List.takeWhile_append_dropWhile.symm
      · rintro ⟨_, ⟨run, body, runs', rfl, rfl, hne, hrun, hbody⟩, hcs⟩
        obtain ⟨rest, rfl, hline⟩ := isLine_append_iff.mp hcs
        obtain ⟨htake, hdrop⟩ := span_digits hrun (head_of_isLine hline (head_of_spelled h.1 hbody))
        have hscan : scan pieces rest = some runs' := (ih h.2).mpr ⟨body, hbody, hline⟩
        rw [htake, hdrop, hscan, if_neg (by simpa using hne)]
        rfl

/-! ### Runs between marks -/

/-- The text of the given pieces, with the given runs for the digits. -/
def filled : List Piece → List (List Char) → List Char
  | .mark m :: pieces, runs => m.toList ++ filled pieces runs
  | .digits :: pieces, run :: runs => run ++ filled pieces runs
  | _, _ => []

/-- A text is spelled in pieces by filling in runs of digits. -/
theorem spelled_iff {pieces : List Piece} {runs : List (List Char)} {cs : List Char} :
    Spelled pieces runs cs ↔ runs.length = pieces.count .digits ∧
      (∀ run ∈ runs, run ≠ [] ∧ ∀ c ∈ run, Text.isDigit c = true) ∧ cs = filled pieces runs := by
  induction pieces generalizing runs cs with
  | nil =>
    cases runs with
    | nil => simp [Spelled, filled]
    | cons run runs => simp [Spelled]
  | cons piece pieces ih =>
    cases piece with
    | mark m =>
      simp only [Spelled, filled, ih, List.count_cons_of_ne (show Piece.mark m ≠ .digits by simp)]
      constructor
      · rintro ⟨_, rfl, hlength, hruns, rfl⟩
        exact ⟨hlength, hruns, rfl⟩
      · rintro ⟨hlength, hruns, rfl⟩
        exact ⟨_, rfl, hlength, hruns, rfl⟩
    | digits =>
      cases runs with
      | nil => simp [Spelled]
      | cons run runs =>
        simp only [Spelled, filled, ih, List.count_cons_self, List.length_cons,
          Nat.add_right_cancel_iff, List.forall_mem_cons]
        constructor
        · rintro ⟨_, _, _, rfl, ⟨rfl, rfl⟩, hne, hrun, hlength, hruns, rfl⟩
          exact ⟨hlength, ⟨⟨hne, hrun⟩, hruns⟩, rfl⟩
        · rintro ⟨hlength, ⟨⟨hne, hrun⟩, hruns⟩, rfl⟩
          exact ⟨run, _, runs, rfl, rfl, hne, hrun, hlength, hruns, rfl⟩

/-- A text that is spelled in the given pieces, with the numbers it has for the digits. -/
def Spells (pieces : List Piece) (numbers : List Int) (cs : List Char) : Prop :=
  ∃ runs, List.Forall₂ IsNumeral runs numbers ∧ cs = filled pieces runs

theorem spells_one {pieces : List Piece} {n : Int} {cs : List Char} :
    Spells pieces [n] cs ↔ ∃ run, IsNumeral run n ∧ cs = filled pieces [run] := by
  simp [Spells, List.forall₂_cons_right_iff]

theorem spells_two {pieces : List Piece} {m n : Int} {cs : List Char} :
    Spells pieces [m, n] cs ↔
      ∃ run run', IsNumeral run m ∧ IsNumeral run' n ∧ cs = filled pieces [run, run'] := by
  simp [Spells, List.forall₂_cons_right_iff, and_assoc]

theorem forall₂_isNumeral_iff {runs : List (List Char)} {numbers : List Int} :
    List.Forall₂ IsNumeral runs numbers ↔
      (∀ run ∈ runs, run ≠ [] ∧ ∀ c ∈ run, Text.isDigit c = true) ∧
        List.Forall₂ (fun run n => number run = .ok n) runs numbers := by
  have hsame : IsNumeral = fun run n =>
      (run ≠ [] ∧ ∀ c ∈ run, Text.isDigit c = true) ∧ number run = .ok n := by
    funext run n
    rw [eq_iff_iff, isNumeral_iff, and_assoc]
  rw [hsame, List.forall₂_and_left]

/-- A text is spelled with numbers if it is spelled with numerals for them. -/
theorem spells_iff {pieces : List Piece} {numbers : List Int}
    (hcount : numbers.length = pieces.count .digits) {cs : List Char} :
    Spells pieces numbers cs ↔
      ∃ runs, List.Forall₂ IsNumeral runs numbers ∧ Spelled pieces runs cs := by
  refine exists_congr fun runs => and_congr_right fun hruns => ?_
  rw [spelled_iff, and_iff_right (hruns.length_eq.trans hcount),
    and_iff_right (forall₂_isNumeral_iff.mp hruns).1]

/-- The numbers that are read from a text are those it is spelled with. -/
theorem exists_scan_iff {pieces : List Piece} (h : isSeparated pieces = true) {numbers : List Int}
    (hcount : numbers.length = pieces.count .digits) {cs : List Char} :
    (∃ runs, scan pieces cs = some runs ∧
        List.Forall₂ (fun run n => number run = .ok n) runs numbers) ↔
      ∃ body, Spells pieces numbers body ∧ IsLine body cs := by
  simp only [scan_eq_some_iff_isLine h, spells_iff hcount]
  constructor
  · rintro ⟨runs, ⟨body, hbody, hline⟩, hnumbers⟩
    obtain ⟨-, hdigits, -⟩ := spelled_iff.mp hbody
    exact ⟨body, ⟨runs, forall₂_isNumeral_iff.mpr ⟨hdigits, hnumbers⟩, hbody⟩, hline⟩
  · rintro ⟨body, ⟨runs, hruns, hbody⟩, hline⟩
    exact ⟨runs, ⟨body, hbody, hline⟩, (forall₂_isNumeral_iff.mp hruns).2⟩

theorem exists_scan_one_iff {pieces : List Piece} (h : isSeparated pieces = true)
    (hcount : pieces.count .digits = 1) {n : Int} {cs : List Char} :
    (∃ run, scan pieces cs = some [run] ∧ number run = .ok n) ↔
      ∃ body, Spells pieces [n] body ∧ IsLine body cs := by
  rw [← exists_scan_iff h (by simp [hcount])]
  simp [List.forall₂_cons_right_iff]

theorem exists_scan_two_iff {pieces : List Piece} (h : isSeparated pieces = true)
    (hcount : pieces.count .digits = 2) {m n : Int} {cs : List Char} :
    (∃ run run', scan pieces cs = some [run, run'] ∧ number run = .ok m ∧ number run' = .ok n) ↔
      ∃ body, Spells pieces [m, n] body ∧ IsLine body cs := by
  rw [← exists_scan_iff h (by simp [hcount])]
  simp [List.forall₂_cons_right_iff]

theorem readOne_eq_ok_iff {kind : AtomKind} {pieces : List Piece} (h : isSeparated pieces = true)
    (hcount : pieces.count .digits = 1) {cs : List Char} {text : String} {n : Int} :
    readOne kind pieces cs text = .ok n ↔ ∃ body, Spells pieces [n] body ∧ IsLine body cs := by
  rw [← exists_scan_one_iff h hcount, readOne]
  split
  · rename_i run hscan
    simp [hscan]
  · rename_i hscan
    refine iff_of_false (by simp) ?_
    rintro ⟨run, hrun, -⟩
    exact hscan run hrun

/-- Two numbers are read one after the other. -/
theorem bind_numbers_eq_ok_iff {α : Type} {make : Int → Int → α} {run run' : List Char} {a : α} :
    (do return make (← number run) (← number run')) = Except.ok a ↔
      ∃ m n, number run = .ok m ∧ number run' = .ok n ∧ make m n = a := by
  rcases number run with e | m
  · simp [bind, Except.bind]
  · rcases number run' with e | n
    · simp [bind, Except.bind]
    · simp [bind, Except.bind, pure, Except.pure]

end Spelling

open Spelling

/-! ### Regions -/

namespace Region

/-- The spellings of a region. -/
def IsSpelling (r : Region) (cs : List Char) : Prop :=
  ∃ run, IsNumeral run r ∧ cs = "'_#".toList ++ run ++ "r".toList

theorem isSpelling_iff {r : Region} {cs : List Char} : IsSpelling r cs ↔ Spells pieces [r] cs := by
  simp [spells_one, IsSpelling, pieces, filled]

/-- What is read as a region are its spellings, a line end apart. -/
theorem read_eq_ok_iff_isLine {s : String} {r : Region} :
    read s = .ok r ↔ ∃ body, IsSpelling r body ∧ IsLine body s.toList := by
  simp only [isSpelling_iff]
  exact readOne_eq_ok_iff (by decide) (by decide)

theorem read_eq_ok_iff {cs : List Char} (h : '\n' ∉ cs) {r : Region} :
    read (String.ofList cs) = .ok r ↔ IsSpelling r cs := by
  rw [read_eq_ok_iff_isLine, String.toList_ofList, exists_isLine_iff h]

theorem isSpelling_text {r : Region} (hr : 0 ≤ r) (hfits : Decimal.fits r = true) :
    IsSpelling r (text r).toList := by
  refine ⟨_, isNumeral_text hr hfits, ?_⟩
  rw [text, String.toList_append, String.toList_append]

end Region

/-! ### Loans -/

namespace Loan

/-- The spellings of a loan. -/
def IsSpelling (l : Loan) (cs : List Char) : Prop :=
  ∃ run, IsNumeral run l ∧ cs = "bw".toList ++ run

theorem isSpelling_iff {l : Loan} {cs : List Char} : IsSpelling l cs ↔ Spells pieces [l] cs := by
  simp [spells_one, IsSpelling, pieces, filled]

/-- What is read as a loan are its spellings, a line end apart. -/
theorem read_eq_ok_iff_isLine {s : String} {l : Loan} :
    read s = .ok l ↔ ∃ body, IsSpelling l body ∧ IsLine body s.toList := by
  simp only [isSpelling_iff]
  exact readOne_eq_ok_iff (by decide) (by decide)

theorem read_eq_ok_iff {cs : List Char} (h : '\n' ∉ cs) {l : Loan} :
    read (String.ofList cs) = .ok l ↔ IsSpelling l cs := by
  rw [read_eq_ok_iff_isLine, String.toList_ofList, exists_isLine_iff h]

theorem isSpelling_text {l : Loan} (hl : 0 ≤ l) (hfits : Decimal.fits l = true) :
    IsSpelling l (text l).toList := by
  refine ⟨_, isNumeral_text hl hfits, ?_⟩
  rw [text, String.toList_append]

end Loan

/-! ### Locals -/

namespace Local

/-- The spellings of a local. -/
def IsSpelling (n : Local) (cs : List Char) : Prop :=
  ∃ run, IsNumeral run n ∧ cs = "_".toList ++ run

theorem isSpelling_iff {n : Local} {cs : List Char} : IsSpelling n cs ↔ Spells pieces [n] cs := by
  simp [spells_one, IsSpelling, pieces, filled]

/-- What is read as a local are its spellings, once the blanks around are dropped. -/
theorem read_eq_ok_iff_isLine {s : String} {n : Local} :
    read s = .ok n ↔ ∃ body, IsSpelling n body ∧ IsLine body (Text.trim s.toList) := by
  simp only [isSpelling_iff]
  exact readOne_eq_ok_iff (by decide) (by decide)

theorem isSpelling_text {n : Local} (hn : 0 ≤ n) (hfits : Decimal.fits n = true) :
    IsSpelling n (text n).toList := by
  refine ⟨_, isNumeral_text hn hfits, ?_⟩
  rw [text, String.toList_append]

end Local

/-! ### Locations -/

namespace Location

/-- The spellings of a location. -/
def IsSpelling (l : Location) (cs : List Char) : Prop :=
  ∃ block index, IsNumeral block l.block ∧ IsNumeral index l.index ∧
    cs = "bb".toList ++ block ++ "[".toList ++ index ++ "]".toList

theorem isSpelling_iff {l : Location} {cs : List Char} :
    IsSpelling l cs ↔ Spells pieces [l.block, l.index] cs := by
  simp [spells_two, IsSpelling, pieces, filled]

/-- What is read as a location are its spellings, once the blanks around are dropped. -/
theorem read_eq_ok_iff_isLine {s : String} {l : Location} :
    read s = .ok l ↔ ∃ body, IsSpelling l body ∧ IsLine body (Text.trim s.toList) := by
  simp only [isSpelling_iff]
  rw [← exists_scan_two_iff (by decide) (by decide), read]
  split
  · rename_i block index hscan
    rw [bind_numbers_eq_ok_iff]
    constructor
    · rintro ⟨b, i, hb, hi, rfl⟩
      exact ⟨block, index, hscan, hb, hi⟩
    · rintro ⟨block', index', hruns, hb, hi⟩
      obtain ⟨rfl, rfl⟩ : block = block' ∧ index = index' := by simpa [hscan] using hruns
      exact ⟨_, _, hb, hi, rfl⟩
  · rename_i hscan
    refine iff_of_false (by simp) ?_
    rintro ⟨block, index, hruns, -⟩
    exact hscan block index hruns

theorem isSpelling_text {l : Location} (hblock : 0 ≤ l.block)
    (hblock' : Decimal.fits l.block = true)
    (hindex : 0 ≤ l.index) (hindex' : Decimal.fits l.index = true) :
    IsSpelling l (text l).toList := by
  refine ⟨_, _, isNumeral_text hblock hblock', isNumeral_text hindex hindex', ?_⟩
  simp only [text, String.toList_append]

end Location

/-! ### Points -/

namespace Point

/-- The spellings of a point. -/
def IsSpelling (p : Point) (cs : List Char) : Prop :=
  ∃ block index, IsNumeral block p.location.block ∧ IsNumeral index p.location.index ∧
    cs = p.phase.text.toList ++ "(bb".toList ++ block ++ "[".toList ++ index ++ "])".toList

theorem isSpelling_iff {p : Point} {cs : List Char} :
    IsSpelling p cs ↔ Spells (pieces p.phase) [p.location.block, p.location.index] cs := by
  simp [spells_two, IsSpelling, pieces, Location.pieces, filled]

theorem isSeparated_pieces (phase : Phase) : isSeparated (pieces phase) = true := by
  cases phase <;> decide

theorem count_digits_pieces (phase : Phase) : (pieces phase).count .digits = 2 := by
  cases phase <;> decide

/-- The two phases are never spelled alike. -/
theorem scan_mid_of_start {cs : List Char} {runs : List (List Char)}
    (hstart : scan (pieces .start) cs = some runs) : scan (pieces .mid) cs = none := by
  obtain ⟨rest, hrest, -⟩ := Option.bind_eq_some_iff.mp hstart
  obtain rfl := stripStart?_eq_some_iff.mp hrest
  rfl

/-- What is found in a text is what is there for one of the phases. -/
theorem found_eq_some_iff {cs : List Char} {phase : Phase} {runs : List (List Char)} :
    ((scan (pieces .start) cs).map fun runs => (Phase.start, runs)).or
        ((scan (pieces .mid) cs).map fun runs => (Phase.mid, runs)) = some (phase, runs) ↔
      scan (pieces phase) cs = some runs := by
  rcases hstart : scan (pieces .start) cs with _ | runs'
  · cases phase <;> simp [hstart]
  · have hmid := scan_mid_of_start hstart
    cases phase <;> simp [hstart, hmid]

/-- What is read as a point are its spellings, a line end apart. -/
theorem read_eq_ok_iff_isLine {s : String} {p : Point} :
    read s = .ok p ↔ ∃ body, IsSpelling p body ∧ IsLine body s.toList := by
  simp only [isSpelling_iff]
  rw [← exists_scan_two_iff (isSeparated_pieces _) (count_digits_pieces _), read]
  split
  · rename_i phase block index hfound
    rw [bind_numbers_eq_ok_iff]
    constructor
    · rintro ⟨b, i, hb, hi, rfl⟩
      exact ⟨block, index, found_eq_some_iff.mp hfound, hb, hi⟩
    · rintro ⟨block', index', hruns, hb, hi⟩
      -- One text is not found with two phases.
      have hsame := (found_eq_some_iff.mpr hruns).symm.trans hfound
      obtain ⟨hphase, rfl, rfl⟩ : p.phase = phase ∧ block' = block ∧ index' = index := by
        simpa using hsame
      exact ⟨_, _, hb, hi, by rw [← hphase]⟩
  · rename_i hnone
    refine iff_of_false (by simp) ?_
    rintro ⟨block, index, hruns, -⟩
    exact hnone _ block index (found_eq_some_iff.mpr hruns)

theorem read_eq_ok_iff {cs : List Char} (h : '\n' ∉ cs) {p : Point} :
    read (String.ofList cs) = .ok p ↔ IsSpelling p cs := by
  rw [read_eq_ok_iff_isLine, String.toList_ofList, exists_isLine_iff h]

theorem isSpelling_text {p : Point} (hblock : 0 ≤ p.location.block)
    (hblock' : Decimal.fits p.location.block = true) (hindex : 0 ≤ p.location.index)
    (hindex' : Decimal.fits p.location.index = true) : IsSpelling p (text p).toList := by
  refine ⟨_, _, isNumeral_text hblock hblock', isNumeral_text hindex hindex', ?_⟩
  have hopen : "(bb".toList = "(".toList ++ "bb".toList := by decide
  have hclose : "])".toList = "]".toList ++ ")".toList := by decide
  simp only [text, Location.text, String.toList_append, hopen, hclose, List.append_assoc]

end Point
end BorrowGraph
