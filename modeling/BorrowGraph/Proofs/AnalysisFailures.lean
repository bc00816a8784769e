/-
How the analysis of a function fails.

Missing or corrupt sources of facts are reported by diagnostics, which concern only the
function at hand (`IsReported`).  What remains are faults, and there are only a few of them: a
path that is too long to be looked up or that holds a null character, a numeral of a listing
with too many digits, an issued loan with too many digits, and a solver that needs too many
rounds.  `Analysis.Escapes` says when each of them occurs, and the account is exact
(`Analysis.load_reported`).

The stages are those of the analysis:
* `FactStore.loadedFrom_reported`, `FactStore.loadedFrom_of_unanswered`: the facts;
* `Owners.enter_outcome`, `Owners.loadedFrom_reported`: the listing;
* `Completion.run_reported`, `Completion.run_of_needsLongLoan`: the completion of the facts.
-/
import BorrowGraph.Proofs.BundleContainment
import BorrowGraph.Proofs.CompletionNames
import BorrowGraph.Proofs.FactSpelling
import BorrowGraph.Proofs.ListingExactness
import BorrowGraph.Proofs.StrayPoints

namespace BorrowGraph

/-- A diagnostic that concerns one function: its sources of facts are missing, corrupt or
inconsistent. -/
def Diagnostic.IsAboutFacts (d : Diagnostic) : Prop :=
  d.kind = .factLoad ∨ d.kind = .consistency

/-- A failure that such a diagnostic reports. -/
def Failure.IsReported (e : Failure) : Prop :=
  ∃ d, e = .diagnostic d ∧ d.IsAboutFacts

theorem Task.Yields.unique {σ α : Type} {t : Task σ α} {s s' s'' : σ} {r r' : Except Failure α}
    (h : t.Yields s r s') (h' : t.Yields s r' s'') : r = r' :=
  h.start.1.symm.trans h'.start.1

/-! ### Paths that are too long -/

namespace FileTree

variable {t : FileTree} {p : Path}

/-- A path is too long to be looked up. -/
def IsTooLong (t : FileTree) (p : Path) : Prop :=
  p.hasNull = false ∧ t.stat p = .error .nameTooLong

theorem walk_eq_error {k : Key} {cs : List String} {c : FileError.Cause}
    (h : t.walk k cs = .error c) :
    c = .notFound ∨ c = .notDirectory ∨ c = .nameTooLong := by
  induction cs generalizing k with
  | nil => cases h
  | cons component cs ih =>
    rw [walk] at h
    split at h
    · exact .inl (Except.error.inj h).symm
    · exact .inr (.inl (Except.error.inj h).symm)
    · split at h
      · exact ih h
      · split at h
        · exact .inr (.inr (Except.error.inj h).symm)
        · exact ih h

theorem stat_eq_error {c : FileError.Cause} (h : t.stat p = .error c) :
    c = .notFound ∨ c = .notDirectory ∨ c = .nameTooLong := by
  rcases bind_eq_error.mp h with hlocate | ⟨k, -, h⟩
  · rw [locate] at hlocate
    split at hlocate
    · exact .inr (.inr (Except.error.inj hlocate).symm)
    · exact walk_eq_error hlocate
  · split at h
    · cases h
    · exact .inl (Except.error.inj h).symm

/-- A question about a path stays without an answer only if the path is too long. -/
theorem ask_eq_error {q : Node → Bool} {f : Fault} :
    t.ask p q = .error f ↔ t.IsTooLong p ∧ f = .refused ⟨.nameTooLong, some p.text, none⟩ := by
  rw [ask, IsTooLong]
  rcases p.hasNull with _ | _
  -- Where there is nothing, or something that is no directory is on the way, the answer is no.
  · rcases hstat : t.stat p with c | n
    · rcases stat_eq_error hstat with rfl | rfl | rfl
      · simp
      · simp
      · simp [eq_comm]
    · simp
  · simp

theorem hasNull_of_ask {q : Node → Bool} (h : t.ask p q = .ok true) : p.hasNull = false := by
  rw [ask] at h
  split at h
  · cases h
  · rename_i hnull
    exact Bool.eq_false_iff.mpr hnull

end FileTree

/-! ### Facts -/

namespace FactStore

open FileTree (IsTooLong)

variable {files : FileTree} {directory path : Path} {relation : Relation} {store s : FactStore}

/-- A point is only refused with a fault if it cannot be written. -/
theorem lateFailure_reported (p : Point) :
    (∃ f, PointTable.lateFailure p = .fault f) ∨ (PointTable.lateFailure p).IsReported := by
  rw [PointTable.lateFailure]
  split
  · exact .inr ⟨_, rfl, .inr rfl⟩
  · exact .inl ⟨_, rfl⟩

/-- What goes wrong in a column is a fault, or it is reported already. -/
theorem readColumn_fails (points : PointTable) (column : Column) (s : String) :
    FailsOnly (fun e => (∃ f, e = .fault f) ∨ e.IsReported) (readColumn points column s).2 := by
  cases column with
  | region =>
    rw [readColumn]
    rcases Region.read s with f | r
    · exact .error (.inl ⟨f, rfl⟩)
    · exact .ok _
  | loan =>
    rw [readColumn]
    rcases Loan.read s with f | l
    · exact .error (.inl ⟨f, rfl⟩)
    · exact .ok _
  | point =>
    rw [readColumn]
    rcases Point.read s with f | p
    · exact .error (.inl ⟨f, rfl⟩)
    · rcases PointTable.intern_cases points p with ⟨hp, -⟩ | ⟨hp, -⟩
      · simp only [hp]
        exact .ok _
      · simp only [hp]
        exact .error (lateFailure_reported p)

theorem readColumns_fails (points : PointTable) (columns : List Column) (fields : List String) :
    FailsOnly (fun e => (∃ f, e = .fault f) ∨ e.IsReported)
      (readColumns points columns fields).2 := by
  induction columns generalizing points fields with
  | nil =>
    rw [readColumns.eq_def]
    exact .ok _
  | cons column columns ih =>
    rcases fields with _ | ⟨s, fields⟩
    · rw [readColumns.eq_def]
      exact .ok _
    rw [readColumns]
    have hfirst := readColumn_fails points column s
    rcases hcolumn : readColumn points column s with ⟨points', e | n⟩
    · rw [hcolumn] at hfirst
      exact .error (hfirst e rfl)
    · have hrest := ih points' fields
      dsimp only
      rcases hcolumns : readColumns points' columns fields with ⟨points'', e | ns⟩
      · rw [hcolumns] at hrest
        exact .error (hrest e rfl)
      · exact .ok _

theorem readLine_fails (path : Path) (columns : List Column) (line : Nat) (points : PointTable)
    (cs : List Char) : FailsOnly Failure.IsReported (readLine path columns line points cs).2 := by
  rw [readLine]
  split
  · exact .error ⟨_, rfl, .inl rfl⟩
  · have hcolumns := readColumns_fails points columns
      ((Text.splitAtChar '\t' cs).map fun f => String.ofList (unquote f))
    split
    · exact .ok _
    · rename_i points' e hread
      rw [hread] at hcolumns
      -- The line is named for a fault; what is reported already stays as it is.
      rcases hcolumns e rfl with ⟨f, rfl⟩ | ⟨d, rfl, hd⟩
      · exact .error ⟨_, rfl, .inl rfl⟩
      · exact .error ⟨d, rfl, hd⟩

theorem readLines_fails (path : Path) (columns : List Column) (line : Nat) (points : PointTable)
    (lines : List (List Char)) :
    FailsOnly Failure.IsReported (readLines path columns line points lines).2 := by
  induction lines generalizing line points with
  | nil => exact .ok _
  | cons cs lines ih =>
    rw [readLines]
    split
    · exact ih _ _
    · have hline := readLine_fails path columns line points cs
      rcases hread : readLine path columns line points cs with ⟨points', e | row⟩
      · rw [hread] at hline
        exact .error (hline e rfl)
      · have hrest := ih (line + 1) points'
        dsimp only
        rcases hreads : readLines path columns (line + 1) points' lines with ⟨points'', e | rows⟩
        · rw [hreads] at hrest
          exact .error (hrest e rfl)
        · exact .ok _

theorem fileLines_fails (hthere : files.isThere path = .ok true) :
    FailsOnly Failure.IsReported (fileLines files path) := by
  rw [fileLines]
  split
  · exact .error ⟨_, rfl, .inl rfl⟩
  · rename_i f hrefused hbytes
    rcases FileTree.readBytes_eq_error hbytes with ⟨hnull, -⟩ | ⟨-, e, rfl⟩
    · rw [FileTree.hasNull_of_ask hthere] at hnull
      cases hnull
    · exact absurd rfl (hrefused e)
  · split
    · exact .ok _
    · exact .error ⟨_, rfl, .inl rfl⟩

/-- A file whose lines can all be read is read. -/
theorem loadFile_done {lines : List (List Char)} {points : PointTable} {rows : List (List Int)}
    (hlines : fileLines files path = .ok lines)
    (hread : readLines path (columns relation) 1 store.points lines = (points, .ok rows)) :
    ∃ s, (loadFile files path relation).Yields store (.ok ()) s := by
  refine ⟨⟨points, store.facts.insertAll relation rows⟩, ?_⟩
  rw [loadFile, hlines]
  refine (Task.yields_pure store lines).bind ((Task.yields_getState store).bind ?_)
  rw [hread]
  exact (Task.yields_setState store _).bind ((Task.yields_pure _ _).bind
    ((Task.yields_setState _ _).bind (Task.yields_note _ _)))

/-- Reading a relation fails with a report, or because the path of its file is too long. -/
theorem loadRelation_fails {e : Failure}
    (h : (loadRelation files directory relation).Yields store (.error e) s) :
    e.IsReported ∨
      ∃ f, files.isThere (directory.child (fileOf relation)) = .error f ∧ e = .fault f := by
  rw [loadRelation_eq] at h
  rcases hthere : files.isThere (directory.child (fileOf relation)) with f | _ | _
  · simp only [hthere] at h
    exact .inr ⟨f, rfl, Except.error.inj (h.unique (Task.yields_throw store _))⟩
  · simp only [hthere] at h
    split at h
    · cases h.unique (Task.yields_throw store _)
      exact .inl ⟨_, rfl, .inl rfl⟩
    · cases h.unique (Task.yields_note store _)
  · simp only [hthere] at h
    -- The file is there, so that all its failures are reports.
    left
    rcases hlines : fileLines files (directory.child (fileOf relation)) with e' | lines
    · cases h.unique (loadFile_unreadable hlines)
      exact fileLines_fails hthere e hlines
    · have hreads := readLines_fails (directory.child (fileOf relation)) (columns relation) 1
        store.points lines
      rcases hread : readLines (directory.child (fileOf relation)) (columns relation) 1 store.points
        lines with ⟨points, e' | rows⟩
      · cases h.unique (loadFile_refused hlines hread)
        rw [hread] at hreads
        exact hreads e rfl
      · obtain ⟨s', hdone⟩ := loadFile_done hlines hread
        cases h.unique hdone

/-- The facts of a directory cannot be asked for: its path, or that of the file of a relation
before which all others can be read, is too long. -/
inductive Unanswered (files : FileTree) (directory : Path) : Fault → Prop
  | directory (h : files.IsTooLong directory) :
      Unanswered files directory (.refused ⟨.nameTooLong, some directory.text, none⟩)
  | relation {before : List Relation} {relation : Relation} {later : List Relation}
      (hdirectory : files.isDirectory directory = .ok true)
      (hall : Relation.all = before ++ relation :: later)
      (hbefore : ∀ r ∈ before, ∃ tuples, Spells files directory r tuples)
      (h : files.IsTooLong (directory.child (fileOf relation))) :
      Unanswered files directory
        (.refused ⟨.nameTooLong, some (directory.child (fileOf relation)).text, none⟩)

theorem loadedFrom_of_yields {e : Failure} (h : (load files directory).Yields {} (.error e) s) :
    loadedFrom files directory = .error e := by
  rw [loadedFrom, h.start.1]
  rfl

theorem load_of_isTooLong (h : files.IsTooLong directory) :
    (load files directory).Yields store
      (.error (.fault (.refused ⟨.nameTooLong, some directory.text, none⟩))) store := by
  have hdirectory : files.isDirectory directory =
      .error (.refused ⟨.nameTooLong, some directory.text, none⟩) :=
        FileTree.ask_eq_error.mpr ⟨h, rfl⟩
  rw [load, hdirectory]
  exact (Task.yields_note _ _).bind (Task.yields_throw _ _).bind_error

/-- Reading facts fails with a report, or because a path is too long. -/
theorem loadedFrom_reported {e : Failure} (h : loadedFrom files directory = .error e) :
    e.IsReported ∨ ∃ f, Unanswered files directory f ∧ e = .fault f := by
  rcases hdirectory : files.isDirectory directory with f | _ | _
  · obtain ⟨hlong, rfl⟩ := FileTree.ask_eq_error.mp hdirectory
    have hload := loadedFrom_of_yields (load_of_isTooLong hlong)
    rw [h] at hload
    exact .inr ⟨_, .directory hlong, Except.error.inj hload⟩
  · have hload : (load files directory).Yields {}
        (.error (.diagnostic (missingDiagnostic directory "fact directory not found"))) {} := by
      rw [load, hdirectory]
      exact (Task.yields_note _ _).bind ((Task.yields_pure _ false).bind (Task.yields_throw _ _))
    have hload := loadedFrom_of_yields hload
    rw [h] at hload
    cases hload
    exact .inl ⟨_, rfl, .inl rfl⟩
  · rcases load_cases hdirectory {} with ⟨s, -, -, hload⟩ |
      ⟨before, relation, later, s, e', points, hall, hbefore, -, -, -, -, hrelation, hload⟩
    · rw [loadedFrom, hload.start.1] at h
      cases h
    · have hload := loadedFrom_of_yields hload
      rw [h] at hload
      cases hload
      rcases loadRelation_fails hrelation with hreported | ⟨f, hthere, rfl⟩
      · exact .inl hreported
      · obtain ⟨hlong, rfl⟩ := FileTree.ask_eq_error.mp hthere
        exact .inr ⟨_, .relation hdirectory hall (fun r hr => ⟨_, hbefore r hr⟩) hlong, rfl⟩

/-- The first element of a list without a property is the same however it is found. -/
theorem first_unique {α : Type} {P : α → Prop} {before before' after after' : List α} {x x' : α}
    (h : before ++ x :: after = before' ++ x' :: after') (hbefore : ∀ y ∈ before, P y) (hx : ¬ P x)
    (hbefore' : ∀ y ∈ before', P y) (hx' : ¬ P x') : x = x' := by
  induction before generalizing before' with
  | nil =>
    rcases before' with _ | ⟨y, before'⟩
    · exact (List.cons.inj h).1
    · rw [(List.cons.inj h).1] at hx
      exact absurd (hbefore' y List.mem_cons_self) hx
  | cons y before ih =>
    rcases before' with _ | ⟨y', before'⟩
    · rw [← (List.cons.inj h).1] at hx'
      exact absurd (hbefore y List.mem_cons_self) hx'
    · rw [List.forall_mem_cons] at hbefore hbefore'
      exact ih (List.cons.inj h).2 hbefore.2 hbefore'.2

theorem not_spells_of_isTooLong (h : files.IsTooLong (directory.child (fileOf relation))) :
    ¬ ∃ tuples, Spells files directory relation tuples := by
  rintro ⟨tuples, hspells⟩
  have hthere : files.isThere (directory.child (fileOf relation)) = .error _ :=
    FileTree.ask_eq_error.mpr ⟨h, rfl⟩
  rw [Spells, spelledBy, hthere] at hspells
  cases hspells

theorem loadedFrom_of_unanswered {f : Fault} (h : Unanswered files directory f) :
    loadedFrom files directory = .error (.fault f) := by
  cases h with
  | directory hlong => exact loadedFrom_of_yields (load_of_isTooLong hlong)
  | @relation before relation later hdirectory hall hbefore hlong =>
    rcases load_cases hdirectory {} with ⟨s, hspells, -⟩ |
      ⟨before', relation', later', s, e, points, hall', hbefore', -, -, -, hnone, hrelation, hload⟩
    · exact absurd ⟨_, hspells relation⟩ (not_spells_of_isTooLong hlong)
    · -- The relation that cannot be asked for is the first one that cannot be read.
      obtain rfl : relation = relation' :=
        first_unique (hall.symm.trans hall') hbefore (not_spells_of_isTooLong hlong)
          (fun r hr => ⟨_, hbefore' r hr⟩) fun ⟨tuples, hspells⟩ => hnone rfl tuples hspells
      have hthere : files.isThere (directory.child (fileOf relation)) =
          .error (.refused ⟨.nameTooLong, some (directory.child (fileOf relation)).text, none⟩) :=
        FileTree.ask_eq_error.mpr ⟨hlong, rfl⟩
      rw [loadRelation_eq, hthere] at hrelation
      cases hrelation.unique (Task.yields_throw s _)
      exact loadedFrom_of_yields hload

end FactStore

/-! ### Listings -/

/-- A text that is written in one piece is read as it is. -/
theorem Utf8.decodeChunks_encode {s : String} (h : (encode s).length ≤ chunkSize) :
    decodeChunks (encode s) = (s.toList, none) := by
  have hdecoded : decodeFrom 0 0 (encode s) = ⟨s.toList, none, []⟩ := by
    rw [encode_eq, decodeFrom_encode]
  rw [decodeChunks, decodeChunksFrom]
  by_cases hempty : (encode s).isEmpty = true
  · have hs : s.toList = [] := by
      rw [List.isEmpty_iff.mp hempty] at hdecoded
      exact (congrArg Decoded.chars hdecoded).symm
    rw [if_pos hempty, hs]
    rfl
  · rw [if_neg hempty, List.nil_append, List.take_of_length_le h, List.drop_of_length_le h]
    simp only [hdecoded, decodeChunksFrom]
    exact congrArg (·, none) (List.append_nil _)

theorem Text.linesWithEnds_of_unbroken {line : List Char} (hne : line ≠ []) (h : '\n' ∉ line) :
    linesWithEnds line = [line] := by
  induction line with
  | nil => exact absurd rfl hne
  | cons c line ih =>
    rw [List.mem_cons, not_or] at h
    rw [linesWithEnds, if_neg (Ne.symm h.1)]
    by_cases hnil : line = []
    · rw [hnil]
      rfl
    · rw [ih hnil h.2]
      rfl

namespace Owners

variable {files : FileTree} {path : Path}

/-- The numerals of declarations, in order. -/
def numerals (pairs : List (List Char × List Char)) : List (List Char) :=
  pairs.flatMap fun pair => [pair.1, pair.2]

/-- How many digits the first numeral has that is beyond the limit, if there is one. -/
def firstLong? (numerals : List (List Char)) : Option Nat :=
  (numerals.find? fun digits => decide (4300 < digits.length)).map List.length

theorem firstLong?_cons_of_short {digits : List Char} (h : ¬ 4300 < digits.length)
    (rest : List (List Char)) : firstLong? (digits :: rest) = firstLong? rest := by
  rw [firstLong?, List.find?_cons_of_neg (by simpa using h), firstLong?]

theorem firstLong?_cons_of_long {digits : List Char} (h : 4300 < digits.length)
    (rest : List (List Char)) : firstLong? (digits :: rest) = some digits.length := by
  rw [firstLong?, List.find?_cons_of_pos (by simpa using h)]
  rfl

theorem number_of_short {digits : List Char} (h : ¬ 4300 < digits.length) :
    ∃ n, Spelling.number digits = .ok n := by
  refine ⟨Text.digitsValue digits, ?_⟩
  have hlimit : digits.length ≤ Decimal.digitLimit := Nat.le_of_not_lt h
  rw [Spelling.number, Decimal.readDigits, if_pos hlimit]

/-- Entering declarations goes well up to the first numeral with too many digits. -/
theorem enter_outcome (pairs : List (List Char × List Char)) (o : Owners) :
    ∃ o', (enter pairs).Yields o ((firstLong? (numerals pairs)).elim (.ok ()) fun n =>
      .error (.fault (.tooManyDigits n))) o' := by
  induction pairs generalizing o with
  | nil => exact ⟨o, Task.yields_pure o ()⟩
  | cons pair pairs ih =>
    obtain ⟨name, region⟩ := pair
    have hcons : numerals ((name, region) :: pairs) = name :: region :: numerals pairs := rfl
    rw [hcons, enter]
    -- The name is read before the region, and a declaration is entered only after both.
    by_cases hname : 4300 < name.length
    · rw [firstLong?_cons_of_long hname, Spelling.number_of_long hname]
      exact ⟨o, (Task.yields_ofExcept o _).bind_error⟩
    obtain ⟨n, hn⟩ := number_of_short hname
    rw [firstLong?_cons_of_short hname, hn]
    by_cases hregion : 4300 < region.length
    · rw [firstLong?_cons_of_long hregion, Spelling.number_of_long hregion]
      exact ⟨o, (Task.yields_ofExcept o _).bind (Task.yields_ofExcept o _).bind_error⟩
    obtain ⟨r, hr⟩ := number_of_short hregion
    rw [firstLong?_cons_of_short hregion, hr]
    obtain ⟨o', hrest⟩ := ih (o.insert n r)
    refine ⟨o', (Task.yields_ofExcept o _).bind ((Task.yields_ofExcept o _).bind ?_)⟩
    refine (Task.yields_getState o).bind ((Task.yields_forM_note _ o).bind ?_)
    exact (Task.yields_setState o _).bind hrest

theorem tableOf_eq_error {lines : List (List Char)} {e : Failure} :
    tableOf lines = .error e ↔
      ∃ n, firstLong? (numerals (lines.flatMap declarations)) = some n ∧
        e = .fault (.tooManyDigits n) := by
  obtain ⟨o, hrun⟩ := enter_outcome (lines.flatMap declarations) Owners.empty
  rw [← Listing.enterLines_eq] at hrun
  rw [tableOf, hrun.start.1]
  rcases firstLong? (numerals (lines.flatMap declarations)) with _ | n
  · simp [Except.map]
  · simp [Except.map, eq_comm]

/-- The lines that are read of a listing: all of them, or those that are complete before bytes
that are not text. -/
def linesOf (bytes : List UInt8) : List (List Char) :=
  let (chars, problem) := Utf8.decodeChunks bytes
  if problem.isNone then Text.linesWithEnds (Text.unifyLineEnds chars) else completeLines chars

theorem linesOf_encode {cs : List Char} (hne : cs ≠ [])
    (hplain : ∀ c ∈ cs, c.toNat < 128 ∧ Text.isLineEnd c = false)
    (hlength : cs.length ≤ Utf8.chunkSize) :
    linesOf (Utf8.encode (String.ofList cs)) = [cs] := by
  have hbytes : (Utf8.encode (String.ofList cs)).length ≤ Utf8.chunkSize := by
    have hone : ∀ c ∈ cs, (String.utf8EncodeChar c).length = 1 := by
      intro c hc
      have hascii : c.val ≤ 127 := Nat.le_of_lt_succ (hplain c hc).1
      rw [String.length_utf8EncodeChar]
      exact Char.utf8Size_eq_one_iff.mpr hascii
    rw [Utf8.encode_eq, String.toList_ofList, List.length_flatMap, List.map_congr_left hone]
    simpa using hlength
  have hbreak : '\n' ∉ cs := fun h => absurd (hplain _ h).2 (by decide)
  have hends : Text.unifyLineEnds cs = cs := by
    have happend := Text.unifyLineEnds_append (fun c hc => (hplain c hc).2) []
    rwa [List.append_nil, Text.unifyLineEnds, List.append_nil] at happend
  rw [linesOf, Utf8.decodeChunks_encode hbytes, String.toList_ofList]
  show Text.linesWithEnds (Text.unifyLineEnds cs) = [cs]
  rw [hends, Text.linesWithEnds_of_unbroken hne hbreak]

/-- A listing has a numeral beyond the limit on digits, and the first one has this many. -/
def HasLongNumeral (files : FileTree) (path : Path) (n : Nat) : Prop :=
  ∃ bytes, files.readBytes path = .ok bytes ∧
    firstLong? (numerals ((linesOf bytes).flatMap declarations)) = some n

theorem tableOfBytes_eq_error {bytes : List UInt8} {e : Failure}
    (h : tableOfBytes path bytes = .error e) :
    e.IsReported ∨ ∃ n, firstLong? (numerals ((linesOf bytes).flatMap declarations)) = some n ∧
      e = .fault (.tooManyDigits n) := by
  rw [tableOfBytes] at h
  rw [linesOf]
  rcases hchunks : Utf8.decodeChunks bytes with ⟨chars, _ | problem⟩
  · rw [hchunks] at h
    exact .inr (tableOf_eq_error.mp h)
  · rw [hchunks] at h
    -- Bytes that are not text are reported only after the lines before them have been read.
    rcases bind_eq_error.mp h with htable | ⟨o, -, h⟩
    · exact .inr (tableOf_eq_error.mp htable)
    · cases h
      exact .inl ⟨_, rfl, .inl rfl⟩

theorem tableOfBytes_of_firstLong? {bytes : List UInt8} {n : Nat}
    (h : firstLong? (numerals ((linesOf bytes).flatMap declarations)) = some n) :
    tableOfBytes path bytes = .error (.fault (.tooManyDigits n)) := by
  rw [linesOf] at h
  rw [tableOfBytes]
  rcases hchunks : Utf8.decodeChunks bytes with ⟨chars, _ | problem⟩
  · rw [hchunks] at h
    exact tableOf_eq_error.mpr ⟨n, h, rfl⟩
  · rw [hchunks] at h
    exact bind_eq_error.mpr (.inl (tableOf_eq_error.mpr ⟨n, h, rfl⟩))

/-- Reading a listing fails with a report, for a null character in its path, or for a numeral. -/
theorem loadedFrom_reported {e : Failure} (h : loadedFrom files path = .error e) :
    e.IsReported ∨ path.hasNull = true ∧ e = .fault .nullInPath ∨
      ∃ n, HasLongNumeral files path n ∧ e = .fault (.tooManyDigits n) := by
  rcases bind_eq_error.mp h with hbytes | ⟨bytes, hbytes, h⟩
  · obtain ⟨f, hf, rfl⟩ := mapError_eq_error.mp hbytes
    rcases FileTree.readBytes_eq_error hf with ⟨hnull, rfl⟩ | ⟨-, refusal, rfl⟩
    · exact .inr (.inl ⟨hnull, rfl⟩)
    · exact .inl ⟨_, rfl, .inl rfl⟩
  · rcases tableOfBytes_eq_error h with hreported | ⟨n, hn, rfl⟩
    · exact .inl hreported
    · exact .inr (.inr ⟨n, ⟨bytes, mapError_eq_ok.mp hbytes, hn⟩, rfl⟩)

theorem loadedFrom_of_hasNull (h : path.hasNull = true) :
    loadedFrom files path = .error (.fault .nullInPath) := by
  rw [loadedFrom, FileTree.readBytes, if_pos h]
  rfl

theorem loadedFrom_of_hasLongNumeral {n : Nat} (h : HasLongNumeral files path n) :
    loadedFrom files path = .error (.fault (.tooManyDigits n)) := by
  obtain ⟨bytes, hbytes, hn⟩ := h
  rw [loadedFrom, hbytes, Except.mapError, ok_bind]
  exact tableOfBytes_of_firstLong? hn

end Owners

/-! ### Completion -/

namespace Completion

variable {f : Facts} {table : PointTable} {body : Body} {owners : Owners}

/-- A pass over planned points stops where a number is too large to be written. -/
theorem Pass.completeAll_tooLarge {plan : List (PointIndex × List Issue)} (left : List PointIndex)
    (hpairs : ∀ x ∈ plan, f.innerPairs x.1 ≠ [])
    (hplan : ∀ x ∈ plan, IsIssued f table body owners x)
    {s : Pass} (hs : s.IsFresh)
    (hlarge : ∃ x ∈ numbered s.next (planned plan), Decimal.fits x.loan = false) :
    (s.completeAll table body owners
      ((plan.map Prod.fst ++ left).map fun p => (p, f.outlivesAt p))).2 =
      some (.fault .tooLargeToWrite) := by
  induction plan generalizing s with
  | nil =>
    obtain ⟨x, hx, -⟩ := hlarge
    cases hx
  | cons x plan ih =>
    obtain ⟨p, issues⟩ := x
    have hplanned : planned ((p, issues) :: plan) = (issues.map fun i => (p, i)) ++ planned plan :=
      List.flatMap_cons
    rw [List.forall_mem_cons] at hpairs hplan
    rw [List.map_cons, List.cons_append, List.map_cons, completeAll]
    rcases completeAt_cases hs hpairs.1 hplan.1 with ⟨s₁, hat, hadds⟩ | ⟨s₁, hat, -⟩
    · rw [hat]
      -- All numbers of the first point can be written, so the large one belongs to another.
      obtain ⟨x, hx, hlarge⟩ := hlarge
      rw [hplanned, numbered_append, List.mem_append] at hx
      rcases hx with hx | hx
      · rw [(completeAt_fits hpairs.1 hplan.1 hat).1 x hx] at hlarge
        cases hlarge
      · rw [← hadds.next] at hx
        exact ih hpairs.2 hplan.2 (hadds.isFresh hs) ⟨x, hx, hlarge⟩
    · rw [hat]

theorem fits_eq_false {n : Int} :
    Decimal.fits n = false ↔ 4300 < (Nat.toDigits 10 n.natAbs).length := by
  rw [Decimal.fits, decide_eq_false_iff_not, Nat.not_le]
  rfl

/-- One of the loans to be issued before a point outside the body is met has too many digits. -/
def NeedsLongLoan (f : Facts) (table : PointTable) (body : Body) (owners : Owners) : Prop :=
  ∃ plan left, eligiblePoints f = plan.map Prod.fst ++ left ∧
    (∀ x ∈ plan, IsIssued f table body owners x) ∧
    ∃ x ∈ numbered (firstLoan f) (planned plan), 4300 < (Nat.toDigits 10 x.loan.natAbs).length

theorem run_of_needsLongLoan (h : NeedsLongLoan f table body owners) :
    (run f table body owners).2 = some (.fault .tooLargeToWrite) := by
  obtain ⟨plan, left, hpoints, hplan, x, hx, hlong⟩ := h
  have hall :=
    Pass.completeAll_tooLarge left (innerPairs_of_planned hpoints) hplan (isFresh_startPass f [])
    ⟨x, hx, fits_eq_false.mpr hlong⟩
  rw [← hpoints, ← eligible_eq, startPass] at hall
  rw [run]
  rcases hrun :
    Pass.completeAll ⟨f, { callResults := [] }, firstLoan f, []⟩ table body owners (eligible f) with
    ⟨s, _ | e⟩
  · rw [hrun] at hall
    cases hall
  · rw [hrun] at hall
    exact hall

/-- Completion fails with a report, or because a loan has too many digits. -/
theorem run_reported {e : Failure} (h : (run f table body owners).2 = some e) :
    e.IsReported ∨ NeedsLongLoan f table body owners ∧ e = .fault .tooLargeToWrite := by
  have hends := run_ends f table body owners []
  rw [h] at hends
  cases hends with
  | outside hpoints hplan hadds hd =>
    exact .inl ⟨_, rfl, .inr (strays_iff.mpr hd).kind_code.1⟩
  | tooLarge hpoints hplan hstops =>
    obtain ⟨x, hx, hlarge⟩ := hstops.tooLarge
    exact .inr ⟨⟨_, _, hpoints, hplan, x, hx, fits_eq_false.mp hlarge⟩, rfl⟩

end Completion

/-! ### The analysis -/

namespace Analysis

variable {files : FileTree} {body : Body} {factsPath listingPath : Path}

/-- The sources of a function are read: its facts, under a numbering of the points of the body,
and the owners of its regions. -/
structure Reads (files : FileTree) (body : Body) (factsPath listingPath : Path) (facts : Facts)
    (points : PointTable) (owners : Owners) : Prop where
  facts : ∃ store, FactStore.loadedFrom files factsPath = .ok store ∧ store.facts = facts ∧
    numberPoints store.points body = .ok points
  owners : Owners.loadedFrom files listingPath = .ok owners

/-- The ways in which an analysis fails without a report. -/
inductive Escapes (files : FileTree) (body : Body) (factsPath listingPath : Path) : Fault → Prop
  | unanswered {f : Fault} (h : FactStore.Unanswered files factsPath f) :
      Escapes files body factsPath listingPath f
  | nullInPath {store : FactStore} (hfacts : FactStore.loadedFrom files factsPath = .ok store)
      (h : listingPath.hasNull = true) : Escapes files body factsPath listingPath .nullInPath
  | longNumeral {store : FactStore} {n : Nat}
      (hfacts : FactStore.loadedFrom files factsPath = .ok store)
      (h : Owners.HasLongNumeral files listingPath n) :
      Escapes files body factsPath listingPath (.tooManyDigits n)
  | longLoan {facts : Facts} {points : PointTable} {owners : Owners}
      (hreads : Reads files body factsPath listingPath facts points owners)
      (h : Completion.NeedsLongLoan facts points body owners) :
      Escapes files body factsPath listingPath .tooLargeToWrite
  /-- The rules need more rounds than the solver is allowed. -/
  | manyRounds {facts : Facts} {points : PointTable} {owners : Owners}
      (hreads : Reads files body factsPath listingPath facts points owners)
      (hrun : (Completion.run facts points body owners).2 = none)
      (h : ∃ rounds, Liveness.relations (Completion.run facts points body owners).1.facts
        Liveness.defaultBound.toNat = .error rounds) :
      Escapes files body factsPath listingPath (.roundLimit Liveness.defaultBound)

theorem boundFault_default :
    Liveness.boundFault Liveness.defaultBound = .roundLimit Liveness.defaultBound := by
  rw [Liveness.boundFault, if_pos (by decide)]

theorem result_default {f : Facts} {e : Fault} (h : (Solver.default f).result = .error e) :
    (∃ rounds, Liveness.relations f Liveness.defaultBound.toNat = .error rounds) ∧
      e = .roundLimit Liveness.defaultBound := by
  rw [Solver.default, Solver.bounded, Liveness.solve] at h
  split at h
  · rename_i rounds hrelations
    refine ⟨⟨rounds, hrelations⟩, ?_⟩
    rw [← boundFault_default]
    exact (Except.error.inj h).symm
  · cases h

theorem loadedFrom_reported {e : Failure}
    (h : loadedFrom files body factsPath listingPath .default = .error e) :
    e.IsReported ∨ ∃ f, Escapes files body factsPath listingPath f ∧ e = .fault f := by
  rcases bind_eq_error.mp h with hfacts | ⟨store, hfacts, h⟩
  · rcases FactStore.loadedFrom_reported hfacts with hreported | ⟨f, hf, rfl⟩
    · exact .inl hreported
    · exact .inr ⟨f, .unanswered hf, rfl⟩
  rcases bind_eq_error.mp h with howners | ⟨owners, howners, h⟩
  · rcases Owners.loadedFrom_reported howners with hreported | ⟨hnull, rfl⟩ | ⟨n, hn, rfl⟩
    · exact .inl hreported
    · exact .inr ⟨_, .nullInPath hfacts hnull, rfl⟩
    · exact .inr ⟨_, .longNumeral hfacts hn, rfl⟩
  rcases bind_eq_error.mp h with hpoints | ⟨points, hpoints, h⟩
  · -- The table of a store that was read is open, so that all points are numbered.
    obtain ⟨points, hok⟩ := numberPoints_of_open (FactStore.unfrozen_of_loadedFrom hfacts) body
    rw [hok] at hpoints
    cases hpoints
  have hreads : Reads files body factsPath listingPath store.facts points owners :=
    ⟨⟨store, hfacts, rfl, hpoints⟩, howners⟩
  rcases hrun : Completion.run store.facts points body owners with ⟨pass, _ | e'⟩
  · rw [hrun] at h
    rcases bind_eq_error.mp h with hsolver | ⟨output, -, h⟩
    · obtain ⟨f, hf, rfl⟩ := mapError_eq_error.mp hsolver
      obtain ⟨hrelations, rfl⟩ := result_default hf
      refine .inr ⟨_, .manyRounds hreads (by rw [hrun]) ?_, rfl⟩
      rw [hrun]
      exact hrelations
    · cases h
  · rw [hrun] at h
    cases h
    rcases Completion.run_reported (congrArg Prod.snd hrun) with hreported | ⟨hlong, rfl⟩
    · exact .inl hreported
    · exact .inr ⟨_, .longLoan hreads hlong, rfl⟩

theorem loadedFrom_of_reads {facts : Facts} {points : PointTable} {owners : Owners}
    (solver : Solver)
    (h : Reads files body factsPath listingPath facts points owners) :
    ∃ store, store.facts = facts ∧ numberPoints store.points body = .ok points ∧
      loadedFrom files body factsPath listingPath solver = resultOf body store owners solver := by
  obtain ⟨store, hfacts, hstore, hpoints⟩ := h.facts
  refine ⟨store, hstore, hpoints, ?_⟩
  rw [loadedFrom, hfacts, ok_bind, h.owners, ok_bind]

theorem loadedFrom_of_escapes {f : Fault} (h : Escapes files body factsPath listingPath f) :
    loadedFrom files body factsPath listingPath .default = .error (.fault f) := by
  cases h with
  | unanswered hf =>
    rw [loadedFrom, FactStore.loadedFrom_of_unanswered hf]
    rfl
  | nullInPath hfacts hnull =>
    rw [loadedFrom, hfacts, ok_bind, Owners.loadedFrom_of_hasNull hnull]
    rfl
  | longNumeral hfacts hn =>
    rw [loadedFrom, hfacts, ok_bind, Owners.loadedFrom_of_hasLongNumeral hn]
    rfl
  | @longLoan facts points owners hreads hlong =>
    obtain ⟨store, rfl, hpoints, hloaded⟩ := loadedFrom_of_reads .default hreads
    have hrun := Completion.run_of_needsLongLoan hlong
    rw [hloaded, resultOf, hpoints, ok_bind]
    rcases hpass : Completion.run store.facts points body owners with ⟨pass, _ | e⟩
    · rw [hpass] at hrun
      cases hrun
    · rw [hpass] at hrun
      cases hrun
      rfl
  | @manyRounds facts points owners hreads hrun h =>
    obtain ⟨rounds, hrelations⟩ := h
    obtain ⟨store, rfl, hpoints, hloaded⟩ := loadedFrom_of_reads .default hreads
    rw [hloaded, resultOf, hpoints, ok_bind]
    rcases hpass : Completion.run store.facts points body owners with ⟨pass, _ | e⟩
    · rw [hpass] at hrelations
      dsimp only
      rw [Solver.default, Solver.bounded, Liveness.solve, hrelations]
      simp only [boundFault_default]
      rfl
    · rw [hpass] at hrun
      cases hrun

/-- Loading an analysis goes well, or it reports that the sources of the function are missing,
corrupt or inconsistent, or it fails in one of the ways that are listed. -/
theorem load_reported {σ : Type} (s : σ) (files : FileTree) (body : Body)
    (factsPath listingPath : Path) :
    ∃ r, (load files body factsPath listingPath : Task σ Analysis).Yields s r s ∧
      (∀ d, r = .error (.diagnostic d) → d.kind = .factLoad ∨ d.kind = .consistency) ∧
      ∀ f, r = .error (.fault f) ↔ Escapes files body factsPath listingPath f := by
  refine ⟨_, load_yields s files body factsPath listingPath .default, ?_, fun f =>
    ⟨?_, loadedFrom_of_escapes⟩⟩
  · intro d h
    rcases loadedFrom_reported h with ⟨d', hd', hkind⟩ | ⟨f, -, hf⟩
    · cases hd'
      exact hkind
    · cases hf
  · intro h
    rcases loadedFrom_reported h with ⟨d, hd, -⟩ | ⟨f', hescapes, hf'⟩
    · cases hd
    · cases hf'
      exact hescapes

/-! ### A numeral that is too long -/

/-- Facts without tuples, and a listing of one line whose local has one digit more than the
limit. -/
def paddedFiles : FileTree :=
  ⟨[(⟨.working, ["f"]⟩, .directory),
    (⟨.working, ["f", "borrow_region.facts"]⟩, .file []),
    (⟨.working, ["f", "outlives.facts"]⟩, .file []),
    (⟨.working, ["f", "region_live_at.facts"]⟩, .file []),
    (⟨.working, ["r.mir"]⟩, .file (Utf8.encode (String.ofList Listing.paddedLine.text)))]⟩

theorem loadedFrom_paddedFiles :
    ∃ store, FactStore.loadedFrom paddedFiles (Path.ofText "f") = .ok store := by
  have hspells : ∀ relation, FactStore.Spells paddedFiles (Path.ofText "f") relation [] := by
    intro relation
    cases relation <;> rfl
  obtain ⟨store, hstore, -⟩ := FactStore.loadedFrom_of_tuples rfl hspells
  exact ⟨store, hstore⟩

theorem isPlain_paddedLine :
    ∀ c ∈ Listing.paddedLine.text, c.toNat < 128 ∧ Text.isLineEnd c = false := by
  have hdigits : ∀ c ∈ Listing.paddedNumeral.digits, c.toNat < 128 ∧ Text.isLineEnd c = false := by
    intro c hc
    rcases List.mem_append.mp hc with hc | hc
    · rw [List.eq_of_mem_replicate hc]
      decide
    · rw [List.mem_singleton.mp hc]
      decide
  have hrest : ∀ {cs : List Char}, (cs.all fun c => decide (c.toNat < 128) && !Text.isLineEnd c) =
      true →
      ∀ c ∈ cs, c.toNat < 128 ∧ Text.isLineEnd c = false := by
    intro cs h c hc
    simpa using List.all_eq_true.mp h c hc
  rw [Listing.paddedLine, Listing.Line.text, Listing.Declared.text]
  simp only [List.forall_mem_append, List.forall_mem_cons]
  refine ⟨hrest (by decide), hrest (by decide), hrest (by decide), ?_, by decide, by simp⟩
  exact ⟨by decide, hdigits, by decide, by decide, hrest (by decide)⟩

theorem length_paddedLine : Listing.paddedLine.text.length = 4323 := by
  rw [Listing.paddedLine, Listing.Line.text, Listing.Declared.text]
  simp only [List.length_append, List.length_cons, Listing.paddedNumeral, List.length_replicate]
  rfl

theorem hasLongNumeral_paddedFiles :
    Owners.HasLongNumeral paddedFiles (Path.ofText "r.mir") 4301 := by
  have hlength : Listing.paddedNumeral.digits.length = 4301 := by
    rw [Listing.paddedNumeral, List.length_append, List.length_replicate]
    rfl
  have hne : Listing.paddedLine.text ≠ [] := by simp [← List.length_pos_iff, length_paddedLine]
  have hshort : Listing.paddedLine.text.length ≤ Utf8.chunkSize := by
    rw [length_paddedLine]
    decide
  have hdeclarations : Owners.declarations Listing.paddedLine.text =
      [(Listing.paddedNumeral.digits, (Listing.numeral "1" rfl).digits)] :=
    Listing.declarations_text Listing.isDocumented_paddedLine (.inl rfl)
  have hnumerals :
      Owners.numerals [(Listing.paddedNumeral.digits, (Listing.numeral "1" rfl).digits)] =
      [Listing.paddedNumeral.digits, (Listing.numeral "1" rfl).digits] := rfl
  refine ⟨_, rfl, ?_⟩
  rw [Owners.linesOf_encode hne isPlain_paddedLine hshort, List.flatMap_singleton, hdeclarations,
    hnumerals, Owners.firstLong?_cons_of_long (by rw [hlength]; decide), hlength]

/-- The analysis of such a function is not reported. -/
theorem paddedFiles_escape :
    Task.Yields (load paddedFiles ⟨[], []⟩ (Path.ofText "f") (Path.ofText "r.mir"))
      () (.error (.fault (.tooManyDigits 4301))) () := by
  obtain ⟨store, hstore⟩ := loadedFrom_paddedFiles
  have hloaded : loadedFrom paddedFiles ⟨[], []⟩ (Path.ofText "f") (Path.ofText "r.mir") .default =
      .error (.fault (.tooManyDigits 4301)) :=
    loadedFrom_of_escapes (.longNumeral hstore hasLongNumeral_paddedFiles)
  rw [← hloaded]
  exact load_yields () _ _ _ _ _

end Analysis
end BorrowGraph
