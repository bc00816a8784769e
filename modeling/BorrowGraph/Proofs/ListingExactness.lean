/-
What is read from a listing.

The declarations of references, line after line, are entered into a table, so that a local gets
the region of its last one.  Nothing on a documented line is refused, unless a numeral is
beyond the limit on digits.

* `enter_yields`: what entering declarations does;
* `enterLines_eq`: lines are entered as the declarations on them;
* `readLines_exact`: documented lines are read exactly.
-/
import BorrowGraph.Proofs.ListingFormat
import BorrowGraph.Proofs.OwnerTables
import BorrowGraph.Proofs.PipelineRuns
import Mathlib.Data.List.Forall2

namespace BorrowGraph.Listing

open Owners

/-! ### Entering declarations -/

/-- The numerals of a declaration are within the limit on digits. -/
def IsReadable (x : Numeral × Numeral) : Prop :=
  x.1.digits.length ≤ Decimal.digitLimit ∧ x.2.digits.length ≤ Decimal.digitLimit

/-- The local and the region that a declaration stands for. -/
def pairOf (x : Numeral × Numeral) : Local × Region :=
  (x.1.value, x.2.value)

theorem number_numeral {n : Numeral} (h : n.digits.length ≤ Decimal.digitLimit) :
    Spelling.number n.digits = .ok n.value :=
  Spelling.number_eq_ok_iff.mpr ⟨h, rfl⟩

/-- One declaration is entered. -/
theorem enter_cons_yields {o : Owners} {x : Numeral × Numeral} (hx : IsReadable x)
    {rest : List (List Char × List Char)} {r : Except Failure Unit} {o' : Owners}
    (h : (enter rest).Yields (o.insert (pairOf x).1 (pairOf x).2) r o') :
    (enter (spelling x :: rest)).Yields o r o' := by
  have hname : (Spelling.number x.1.digits).mapError Failure.fault = .ok x.1.value := by
    rw [number_numeral hx.1]
    rfl
  have hregion : (Spelling.number x.2.digits).mapError Failure.fault = .ok x.2.value := by
    rw [number_numeral hx.2]
    rfl
  rw [spelling, enter, hname, hregion]
  refine (Task.yields_ofExcept o _).bind ((Task.yields_ofExcept o _).bind ?_)
  refine (Task.yields_getState o).bind ((Task.yields_forM_note _ o).bind ?_)
  exact (Task.yields_setState o _).bind h

/-- Entering declarations adds their pairs to those given before, in order. -/
theorem enter_yields {xs : List (Numeral × Numeral)} (hxs : ∀ x ∈ xs, IsReadable x)
    (pairs : List (Local × Region)) :
    (enter (xs.map spelling)).Yields (ofPairs pairs) (.ok ())
    (ofPairs (pairs ++ xs.map pairOf)) := by
  induction xs generalizing pairs with
  | nil =>
    rw [List.map_nil, List.map_nil, List.append_nil]
    exact Task.yields_pure _ ()
  | cons x xs ih =>
    rw [List.forall_mem_cons] at hxs
    have h := ih hxs.2 (pairs ++ [pairOf x])
    rw [List.append_assoc, List.singleton_append,
      ofPairs_concat pairs (pairOf x).1 (pairOf x).2] at h
    exact enter_cons_yields hxs.1 h

/-! ### Entering lines -/

theorem enter_append (xs ys : List (List Char × List Char)) :
    enter (xs ++ ys) = (do enter xs; enter ys) := by
  induction xs with
  | nil => rfl
  | cons x xs ih => simp only [List.cons_append, enter, ih, bind_assoc]

/-- Lines are entered as the declarations on them, in order. -/
theorem enterLines_eq (texts : List (List Char)) :
    enterLines texts = enter (texts.flatMap declarations) := by
  induction texts with
  | nil => rfl
  | cons cs texts ih => rw [enterLines, List.flatMap_cons, enter_append, ih]

theorem flatMap_declarations {lines : List Line} {texts : List (List Char)}
    (hlines : ∀ line ∈ lines, line.IsDocumented)
    (htexts : List.Forall₂ Line.IsSpelledBy lines texts) :
    texts.flatMap declarations = (lines.flatMap Line.references).map spelling := by
  induction htexts with
  | nil => rfl
  | cons hcs htexts ih =>
    rw [List.forall_mem_cons] at hlines
    rw [List.flatMap_cons, List.flatMap_cons, List.map_append, declarations_text hlines.1 hcs,
      ih hlines.2]

/-! ### Reading lines -/

/-- The declarations of references on some lines are all within the limit on digits. -/
def AreReadable (lines : List Line) : Prop :=
  ∀ x ∈ lines.flatMap Line.references, IsReadable x

/-- The pairs that some lines declare, in order. -/
def declaredPairs (lines : List Line) : List (Local × Region) :=
  (lines.flatMap Line.references).map pairOf

theorem AreReadable.mono {lines lines' : List Line} (h : AreReadable lines)
    (hsubset : ∀ line ∈ lines', line ∈ lines) : AreReadable lines' := by
  intro x hx
  obtain ⟨line, hline, hx⟩ := List.mem_flatMap.mp hx
  exact h x (List.mem_flatMap.mpr ⟨line, hsubset line hline, hx⟩)

theorem declaredPairs_append (before after : List Line) :
    declaredPairs (before ++ after) = declaredPairs before ++ declaredPairs after := by
  rw [declaredPairs, List.flatMap_append, List.map_append]
  rfl

section Reading

variable {σ : Type} (s : σ) {lines : List Line} {texts : List (List Char)}

theorem readLines_documented (hlines : ∀ line ∈ lines, line.IsDocumented)
    (htexts : List.Forall₂ Line.IsSpelledBy lines texts) (hreadable : AreReadable lines) :
    (readLines texts : Task σ Owners).Yields s (.ok (ofPairs (declaredPairs lines))) s := by
  have hrun := enter_yields hreadable []
  rw [← flatMap_declarations hlines htexts, ← enterLines_eq] at hrun
  obtain ⟨hresult, hstate⟩ := hrun.start
  -- The table of no pairs is the empty one with which reading starts.
  have htable : tableOf texts = .ok (ofPairs (declaredPairs lines)) :=
    calc tableOf texts = ((enterLines texts).start (ofPairs [])).1.map fun _ =>
          ((enterLines texts).start (ofPairs [])).2.state := rfl
      _ = .ok (ofPairs (declaredPairs lines)) := by
        rw [hresult, hstate]
        rfl
  rw [← htable]
  exact readLines_yields s texts

/-- **Documented lines are read exactly.**  If no numeral is beyond the limit on digits, each
local has the region of its last declaration with a reference type, and lines that follow
others override them. -/
theorem readLines_exact (hlines : ∀ line ∈ lines, line.IsDocumented)
    (htexts : List.Forall₂ Line.IsSpelledBy lines texts) (hreadable : AreReadable lines) :
    ∃ o, (readLines texts : Task σ Owners).Yields s (.ok o) s ∧ o.IsKeyed ∧
      (∀ n r, o.regionOf n = some r ↔ IsLast n r (declaredPairs lines)) ∧
      ∀ before after, texts = before ++ after →
        ∃ o₁ o₂, (readLines before : Task σ Owners).Yields s (.ok o₁) s ∧
          (readLines after : Task σ Owners).Yields s (.ok o₂) s ∧
          ∀ n, o.regionOf n = (o₂.regionOf n).or (o₁.regionOf n) := by
  refine ⟨_, readLines_documented s hlines htexts hreadable, isKeyed_ofPairs _, regionOf_ofPairs _,
    ?_⟩
  rintro before after rfl
  -- The lines are cut where their texts are.
  have hcut := List.take_append_drop before.length lines
  have htake : ∀ line ∈ lines.take before.length, line ∈ lines := fun _ => List.mem_of_mem_take
  have hdrop : ∀ line ∈ lines.drop before.length, line ∈ lines := fun _ => List.mem_of_mem_drop
  refine ⟨_, _, readLines_documented s (fun line h => hlines line (htake line h))
      (List.forall₂_take_append _ _ _ htexts) (hreadable.mono htake),
    readLines_documented s (fun line h => hlines line (hdrop line h))
      (List.forall₂_drop_append _ _ _ htexts) (hreadable.mono hdrop), fun n => ?_⟩
  rw [← regionOf_ofPairs_append, ← declaredPairs_append, hcut]

end Reading

/-! ### Two listings -/

/-- The numeral with some digits. -/
def numeral (digits : String)
    (h : (!digits.toList.isEmpty && digits.toList.all Text.isDigit) = true) :
    Numeral where
  digits := digits.toList
  ne_nil := by simp_all
  isDigit := by simp_all

/-- A listing whose signature has parentheses and arrows behind its arguments, and in which a
local is declared twice. -/
def nestedLines : List Line :=
  [.signature "get::<T>".toList
      [⟨numeral "1" rfl, .reference (numeral "3" rfl) "(u8, u8)".toList⟩,
        ⟨numeral "2" rfl, .other "fn(u8) -> u8".toList⟩]
      (some "(u8, fn(&'_#4r u8) -> ())".toList) true,
    .binding "    ".toList true ⟨numeral "1" rfl, .reference (numeral "5" rfl) "u32".toList⟩,
    .other "    bb0: \x7b".toList]

/-- Pieces that do not begin with an underscore are unmistakable. -/
theorem isUnmistakable_of_all {cs : List Char}
    (h : ((pieces cs).tail.all fun piece => (Text.trim piece).head? != some '_') = true) :
    IsUnmistakable cs := by
  rintro piece hpiece ⟨n, rest, htrim⟩
  have hhead := List.all_eq_true.mp h piece hpiece
  rw [htrim] at hhead
  simp at hhead

theorem isDocumented_nestedLines : ∀ line ∈ nestedLines, line.IsDocumented := by
  rw [nestedLines, List.forall_mem_cons, List.forall_mem_cons, List.forall_mem_singleton]
  refine ⟨⟨by decide, by decide, List.all_eq_true.mp (by decide), ?_, ?_⟩,
    ⟨by decide, by decide, List.all_eq_true.mp (by decide), ?_⟩, ⟨by decide, by decide, by decide⟩⟩
  · rw [List.forall_mem_cons, List.forall_mem_singleton]
    exact ⟨⟨isUnmistakable_of_all (by decide), trivial⟩, isUnmistakable_of_all (by decide),
      by decide⟩
  · rintro r hr
    obtain rfl := Option.mem_some.mp hr
    exact isUnmistakable_of_all (by decide)
  · exact ⟨isUnmistakable_of_all (by decide), trivial⟩

/-- The second declaration of the local counts, and the reference in the result does not. -/
theorem nestedLines_exact :
    ∃ o, (readLines (nestedLines.map Line.text) : Task Unit Owners).Yields () (.ok o) () ∧
      o.regionOf 1 = some 5 ∧ o.regionOf 2 = none := by
  have htexts : List.Forall₂ Line.IsSpelledBy nestedLines (nestedLines.map Line.text) :=
    List.forall₂_map_right_iff.mpr (List.forall₂_same.mpr fun line _ => .inl rfl)
  have hreadable : AreReadable nestedLines := by
    have hreferences : nestedLines.flatMap Line.references =
        [(numeral "1" rfl, numeral "3" rfl), (numeral "1" rfl, numeral "5" rfl)] := rfl
    rw [AreReadable, hreferences, List.forall_mem_cons, List.forall_mem_singleton]
    exact ⟨⟨by decide, by decide⟩, by decide, by decide⟩
  have hpairs : declaredPairs nestedLines = [(1, 3), (1, 5)] := rfl
  obtain ⟨o, hrun, -, hregions, -⟩ :=
    readLines_exact () isDocumented_nestedLines htexts hreadable
  refine ⟨o, hrun, ?_, ?_⟩
  · rw [hregions, hpairs]
    exact ⟨[(1, 3)], [], rfl, by simp⟩
  · rw [Option.eq_none_iff_forall_ne_some]
    intro r hr
    rw [hregions, hpairs] at hr
    obtain ⟨before, after, heq, -⟩ := hr
    have hmem : (2, r) ∈ [((1, 3) : Local × Region), (1, 5)] := by
      rw [heq]
      simp
    simp at hmem

/-- A numeral with one digit more than the limit. -/
def paddedNumeral : Numeral where
  digits := List.replicate Decimal.digitLimit '0' ++ ['1']
  ne_nil := by simp
  isDigit := by
    intro c hc
    rcases List.mem_append.mp hc with hc | hc
    · rw [List.eq_of_mem_replicate hc]
      decide
    · rw [List.mem_singleton.mp hc]
      decide

/-- The declaration of a local with this numeral. -/
def paddedLine : Line :=
  .binding "    ".toList false ⟨paddedNumeral, .reference (numeral "1" rfl) "u32".toList⟩

theorem isDocumented_paddedLine : paddedLine.IsDocumented := by
  refine ⟨?_, by decide, List.all_eq_true.mp (by decide), isUnmistakable_of_all (by decide),
    trivial⟩
  have hdigits : '\n' ∉ paddedNumeral.digits := fun h =>
    absurd (paddedNumeral.isDigit _ h) (by decide)
  simp only [paddedLine, Line.text, Declared.text, List.mem_append, List.mem_cons, not_or]
  exact ⟨by decide, by decide, by decide, ⟨by decide, hdigits, by decide, by decide, by decide⟩,
    by decide⟩

/-- A documented line that is not read, since a numeral on it is too long. -/
theorem paddedLine_refused :
    (Line.binding "    ".toList false
        ⟨paddedNumeral, .reference (numeral "1" rfl) "u32".toList⟩).IsDocumented ∧
      Task.Yields (readLines [(Line.binding "    ".toList false
        ⟨paddedNumeral, .reference (numeral "1" rfl) "u32".toList⟩).text])
        () (.error (.fault (.tooManyDigits 4301))) () := by
  refine ⟨isDocumented_paddedLine, ?_⟩
  have hlength : paddedNumeral.digits.length = 4301 := by
    show (List.replicate Decimal.digitLimit '0' ++ ['1']).length = 4301
    rw [List.length_append, List.length_replicate]
    rfl
  have hnumber : Spelling.number paddedNumeral.digits = .error (.tooManyDigits 4301) := by
    rw [Spelling.number_of_long (by rw [hlength]; decide), hlength]
  have hdeclarations : declarations paddedLine.text = [spelling (paddedNumeral, numeral "1" rfl)] :=
    declarations_text isDocumented_paddedLine (.inl rfl)
  have hrun : (enterLines [paddedLine.text]).Yields Owners.empty
      (.error (.fault (.tooManyDigits 4301))) Owners.empty := by
    rw [enterLines_eq, List.flatMap_singleton, hdeclarations, spelling, enter, hnumber]
    exact (Task.yields_ofExcept _ _).bind_error
  have htable : tableOf [paddedLine.text] = .error (.fault (.tooManyDigits 4301)) := by
    rw [tableOf, hrun.start.1]
    rfl
  rw [← htable]
  exact readLines_yields () _

end BorrowGraph.Listing
