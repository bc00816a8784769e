/-
The order of lines.

Points are numbered as they are met while fact files are read, and loans are issued in the
order of these numbers.  So the order of lines decides on names, and on nothing else:

* `renameRow`, `Holds.alike`: stores that hold the same tuples differ in the names of points;
* `SpellAlike`: the files of two directories spell the same tuples, in whatever order, however
  often and with or without quotes;
* `loadedFrom_alike`: two such directories can both be read or neither, and hold the same
  facts;
* `ofDirectory_lineOrder`: they lead to the same report, up to the names of the loans that were
  issued.
-/
import BorrowGraph.Proofs.AnalysisNames
import BorrowGraph.Proofs.FactSpelling

namespace BorrowGraph.FactStore

/-! ### Rows under other names -/

/-- The number in a column, under another name. -/
def renameNumber (π : Equiv.Perm PointIndex) : Column → Int → Int
  | .point, n => π n
  | _, n => n

theorem renameNumber_injective (π : Equiv.Perm PointIndex) (column : Column) :
    Function.Injective (renameNumber π column) := by
  cases column with
  | region => exact fun _ _ h => h
  | loan => exact fun _ _ h => h
  | point => exact π.injective

/-- A row, with points under other names. -/
def renameRow (π : Equiv.Perm PointIndex) (columns : List Column) (row : List Int) : List Int :=
  List.zipWith (renameNumber π) columns row

theorem renameRow_inj {π : Equiv.Perm PointIndex} {columns : List Column} {row row' : List Int}
    (hrow : row.length = columns.length) (hrow' : row'.length = columns.length)
    (h : renameRow π columns row = renameRow π columns row') : row = row' := by
  induction columns generalizing row row' with
  | nil => rw [List.length_eq_zero_iff.mp hrow, List.length_eq_zero_iff.mp hrow']
  | cons column columns ih =>
    obtain ⟨n, row, rfl⟩ := List.exists_cons_of_length_eq_add_one hrow
    obtain ⟨n', row', rfl⟩ := List.exists_cons_of_length_eq_add_one hrow'
    obtain ⟨hn, hrest⟩ := List.cons.inj h
    rw [renameNumber_injective π column hn,
      ih (Nat.succ.inj hrow) (Nat.succ.inj hrow') hrest]

/-- The row of a tuple under another numbering. -/
theorem renameRow_rowOf {π : Equiv.Perm PointIndex} {t t' : PointTable} {cells : List Cell}
    (h : ∀ p ∈ pointsOf cells, π (t.number p) = t'.number p) :
    renameRow π (cells.map Cell.column) (rowOf t cells) = rowOf t' cells := by
  rw [renameRow, rowOf, List.zipWith_map, List.zipWith_self]
  refine List.map_congr_left fun c hc => ?_
  cases c with
  | region r => rfl
  | loan l => rfl
  | point p => exact h p (mem_pointsOf.mpr hc)

section Alike

variable {s s' : FactStore} {entries entries' : List (Relation × List Cell)}

theorem Holds.isNodup (h : s.Holds entries) : s.facts.IsNodup :=
  ⟨(h.nodup_rows .borrowRegion).of_map, (h.nodup_rows .outlives).of_map,
    (h.nodup_rows .regionLiveAt).of_map⟩

variable (h : s.Holds entries) (h' : s'.Holds entries') (hsame : ∀ x, x ∈ entries' ↔ x ∈ entries)
include h h' hsame

theorem mem_rows_renamed {π : Equiv.Perm PointIndex}
    (hπ : ∀ p ∈ s.points.points, π (s.points.number p) = s'.points.number p) (relation : Relation)
    (row : List Int) (hrow : row.length = (columns relation).length) :
    renameRow π (columns relation) row ∈ s'.facts.rows relation ↔ row ∈ s.facts.rows relation := by
  have hcells : ∀ cells, (relation, cells) ∈ entries →
      renameRow π (columns relation) (rowOf s.points cells) = rowOf s'.points cells := by
    intro cells hcells
    rw [← h.fits _ hcells]
    exact renameRow_rowOf fun p hp => hπ p ((h.mem_points p).mpr ⟨_, hcells, hp⟩)
  rw [h.mem_rows, h'.mem_rows]
  constructor
  · rintro ⟨cells, hmem, heq⟩
    rw [hsame] at hmem
    rw [← hcells cells hmem] at heq
    -- Rows that are the same under other names are the same.
    refine ⟨cells, hmem, renameRow_inj ?_ hrow heq⟩
    rw [rowOf, List.length_map, ← h.fits _ hmem, List.length_map]
  · rintro ⟨cells, hmem, rfl⟩
    exact ⟨cells, (hsame _).mpr hmem, (hcells cells hmem).symm⟩

/-- Stores that hold the same tuples are alike. -/
theorem Holds.alike : s.Alike s' where
  unfrozen := h'.unfrozen
  mem_points := by
    intro p
    rw [h.mem_points, h'.mem_points]
    exact exists_congr fun x => and_congr_left fun _ => hsame x
  nodup := ⟨h.isNodup, h'.isNodup⟩
  facts := by
    intro π hπ
    have hrows := mem_rows_renamed h h' hsame hπ
    refine ⟨fun r l p => ?_, fun r => ?_, fun r₁ r₂ p => ?_, fun r p => ?_, fun p q => ?_,
      fun l p => ?_, fun p l => ?_⟩
    · simpa [Facts.rows, columns, renameRow, renameNumber] using hrows .borrowRegion [r, l, p] rfl
    · simpa [Facts.rows, columns, renameRow, renameNumber] using hrows .universalRegion [r] rfl
    · simpa [Facts.rows, columns, renameRow, renameNumber] using hrows .outlives [r₁, r₂, p] rfl
    · simpa [Facts.rows, columns, renameRow, renameNumber] using hrows .regionLiveAt [r, p] rfl
    · simpa [Facts.rows, columns, renameRow, renameNumber] using hrows .cfgEdge [p, q] rfl
    · simpa [Facts.rows, columns, renameRow, renameNumber] using hrows .killed [l, p] rfl
    · simpa [Facts.rows, columns, renameRow, renameNumber] using hrows .invalidates [p, l] rfl

end Alike

/-! ### Directories that spell the same -/

/-- Every file that has to be there is, and all lines of all files spell tuples. -/
def IsReadable (files : FileTree) (directory : Path) : Prop :=
  files.isDirectory directory = .ok true ∧
    ∀ relation, ∃ tuples, Spells files directory relation tuples

theorem loadedFrom_of_not_isReadable {files : FileTree} {directory : Path}
    (h : ¬ IsReadable files directory) : ∃ e, loadedFrom files directory = .error e := by
  refine loadedFrom_fails fun hdirectory => ?_
  by_contra hall
  refine h ⟨hdirectory, fun relation => ?_⟩
  by_contra hnot
  exact hall ⟨relation, fun tuples htuples => hnot ⟨tuples, htuples⟩⟩

/-- Both files are refused, or they spell the same tuples. -/
def SameTuples : Option (List (Option (List Cell))) → Option (List (Option (List Cell))) → Prop
  | some xs, some ys => xs ⊆ ys ∧ ys ⊆ xs
  | none, none => True
  | _, _ => False

instance : DecidableRel SameTuples
  | some xs, some ys => inferInstanceAs (Decidable (xs ⊆ ys ∧ ys ⊆ xs))
  | none, none => .isTrue trivial
  | none, some _ => .isFalse id
  | some _, none => .isFalse id

theorem SameTuples.symm {x y : Option (List (Option (List Cell)))} (h : SameTuples x y) :
    SameTuples y x := by
  rcases x with _ | xs
  · rcases y with _ | ys
    · trivial
    · cases h
  · rcases y with _ | ys
    · cases h
    · exact And.symm h

/-- The files of both directories spell the same tuples. -/
structure SpellAlike (files : FileTree) (directory : Path) (files' : FileTree) (directory' : Path) :
    Prop where
  isDirectory : files'.isDirectory directory' = .ok true ↔ files.isDirectory directory = .ok true
  relations : ∀ relation,
    SameTuples (spelledBy files directory relation) (spelledBy files' directory' relation)

namespace SpellAlike

variable {files files' : FileTree} {directory directory' : Path}

theorem symm (h : SpellAlike files directory files' directory') :
    SpellAlike files' directory' files directory :=
  ⟨h.isDirectory.symm, fun relation => (h.relations relation).symm⟩

theorem spells (h : SpellAlike files directory files' directory') {relation : Relation}
    {tuples : List (List Cell)} (htuples : Spells files directory relation tuples) :
    ∃ tuples', Spells files' directory' relation tuples' ∧
      ∀ cells, cells ∈ tuples' ↔ cells ∈ tuples := by
  have hsame := h.relations relation
  rw [show spelledBy files directory relation = _ from htuples] at hsame
  rcases hspelled : spelledBy files' directory' relation with _ | ys
  · rw [hspelled] at hsame
    cases hsame
  · rw [hspelled] at hsame
    obtain ⟨hsubset, hsubset'⟩ := hsame
    -- No line fails, as none of the other file does.
    have hnone : none ∉ ys := fun hnone => by simpa using hsubset' hnone
    obtain ⟨tuples', rfl⟩ := exists_map_some hnone
    refine ⟨tuples', hspelled, fun cells => ⟨fun hcells => ?_, fun hcells => ?_⟩⟩
    · simpa using hsubset' (List.mem_map_of_mem hcells)
    · simpa using hsubset (List.mem_map_of_mem hcells)

theorem isReadable (h : SpellAlike files directory files' directory')
    (hread : IsReadable files directory) : IsReadable files' directory' := by
  refine ⟨h.isDirectory.mpr hread.1, fun relation => ?_⟩
  obtain ⟨tuples, htuples⟩ := hread.2 relation
  obtain ⟨tuples', htuples', -⟩ := h.spells htuples
  exact ⟨tuples', htuples'⟩

/-- Both directories can be read or neither, and they hold the same facts. -/
theorem loadedFrom_alike (h : SpellAlike files directory files' directory') :
    (∃ e e', loadedFrom files directory = .error e ∧ loadedFrom files' directory' = .error e') ∨
      ∃ s s', loadedFrom files directory = .ok s ∧ loadedFrom files' directory' = .ok s' ∧
        s.Alike s' ∧ s'.Alike s := by
  by_cases hread : IsReadable files directory
  · choose tuples htuples using hread.2
    choose tuples' htuples' hsame using fun relation => h.spells (htuples relation)
    obtain ⟨s, hs, hholds⟩ := loadedFrom_of_tuples hread.1 htuples
    obtain ⟨s', hs', hholds'⟩ := loadedFrom_of_tuples (h.isDirectory.mpr hread.1) htuples'
    have hentries : ∀ x,
        x ∈ entriesOf tuples' Relation.all ↔ x ∈ entriesOf tuples Relation.all := by
      intro x
      simp only [entriesOf, List.mem_flatMap, List.mem_map, hsame]
    exact .inr ⟨s, s', hs, hs', hholds.alike hholds' hentries,
      hholds'.alike hholds fun x => (hentries x).symm⟩
  · -- What keeps one directory from being read keeps the other from it.
    have hread' : ¬ IsReadable files' directory' := fun hread' => hread (h.symm.isReadable hread')
    obtain ⟨e, he⟩ := loadedFrom_of_not_isReadable hread
    obtain ⟨e', he'⟩ := loadedFrom_of_not_isReadable hread'
    exact .inl ⟨e, e', he, he'⟩

end SpellAlike

end BorrowGraph.FactStore

/-! ### Reports -/

namespace BorrowGraph.Report

/-- Read the facts in a directory and a listing, analyse them and build the report. -/
def ofDirectory {σ : Type} (files : FileTree) (body : Body) (facts listing : Path) (solver : Solver)
    (init : Option Initialization) (name path : String) : Task σ Report := do
  let a ← Analysis.load files body facts listing solver
  make body a init name path

/-- The report that an analysis gives, if there is one. -/
def ofAnalysis (body : Body) (init : Option Initialization) (name path : String)
    (a : Except Failure Analysis) : Except Failure Report := do
  build body (← a) init name path

section Directory

variable {files files' : FileTree} {body : Body} {facts facts' listing : Path}
  {init : Option Initialization} {name path : String}

theorem ofDirectory_yields {σ : Type} (s : σ) (solver : Solver) :
    (ofDirectory files body facts listing solver init name path).Yields s
      (ofAnalysis body init name path (Analysis.loadedFrom files body facts listing solver)) s := by
  have hload := Analysis.load_yields s files body facts listing solver
  rw [ofDirectory, ofAnalysis]
  rcases ha : Analysis.loadedFrom files body facts listing solver with e | a
  · rw [ha] at hload
    exact hload.bind_error
  · rw [ha] at hload
    refine hload.bind ?_
    rw [ok_bind, make]
    rcases build body a init name path with e | r
    · exact (Task.yields_ofExcept s _).bind_error
    · exact (Task.yields_ofExcept s _).bind ((Task.yields_note s _).bind (Task.yields_pure s r))

end Directory

section LineOrder

variable {body : Body} {bound : Int} {init : Option Initialization} {name path : String}

theorem ofAnalysis_renamed {store store' : FactStore} (h : store.Alike store') {owners : Owners}
    {r : Report} (hr : ofAnalysis body init name path
      (Analysis.resultOf body store owners (Solver.bounded bound)) = .ok r) :
    ∃ r' σ, ofAnalysis body init name path
        (Analysis.resultOf body store' owners (Solver.bounded bound)) = .ok r' ∧
      r.Renamed σ r' := by
  obtain ⟨a, ha, hbuild⟩ := bind_eq_ok.mp hr
  obtain ⟨a', π, σ, ha', hrenamed⟩ := Analysis.resultOf_renamed h ha
  obtain ⟨r', hr', hreports⟩ := build_renamed hrenamed
    (fun l hl phase => Analysis.mem_points_of_resultOf ha hl phase) hbuild
  exact ⟨r', σ, bind_eq_ok.mpr ⟨a', ha', hr'⟩, hreports⟩

/-- Stores that are alike both have a report or neither has. -/
theorem ofAnalysis_alike {store store' : FactStore} (h : store.Alike store')
    (h' : store'.Alike store)
    (owners : Owners) :
    (∃ e e', ofAnalysis body init name path
          (Analysis.resultOf body store owners (Solver.bounded bound)) = .error e ∧
        ofAnalysis body init name path
          (Analysis.resultOf body store' owners (Solver.bounded bound)) = .error e') ∨
      ∃ r r' σ, ofAnalysis body init name path
          (Analysis.resultOf body store owners (Solver.bounded bound)) = .ok r ∧
        ofAnalysis body init name path
          (Analysis.resultOf body store' owners (Solver.bounded bound)) = .ok r' ∧
        r.Renamed σ r' := by
  rcases hr : ofAnalysis body init name path
    (Analysis.resultOf body store owners (Solver.bounded bound)) with e | r
  · -- A report of the second store alone would be one of the first store, too.
    rcases hr' : ofAnalysis body init name path
      (Analysis.resultOf body store' owners (Solver.bounded bound)) with e' | r'
    · exact .inl ⟨e, e', rfl, rfl⟩
    · obtain ⟨r, -, hok, -⟩ := ofAnalysis_renamed h' hr'
      exact absurd (hr.symm.trans hok) (by simp)
  · obtain ⟨r', σ, hr', hrenamed⟩ := ofAnalysis_renamed h hr
    exact .inr ⟨r, r', σ, rfl, hr', hrenamed⟩

/-- **The order of lines does not matter.**  For directories whose files spell the same tuples
both reports fail or both succeed, and then they are the same up to the names of the loans that
were issued. -/
theorem ofDirectory_lineOrder {τ : Type} (s : τ) {files files' : FileTree}
    {facts facts' listing : Path}
    (h : FactStore.SpellAlike files facts files' facts')
    (hlisting : files'.readBytes listing = files.readBytes listing) (body : Body) (bound : Int)
    (init : Option Initialization) (name path : String) :
    (∃ e e', ((ofDirectory files body facts listing (.bounded bound) init name path).start s).1 =
          .error e ∧
        ((ofDirectory files' body facts' listing (.bounded bound) init name path).start s).1 =
          .error e') ∨
      ∃ r r' σ, ((ofDirectory files body facts listing (.bounded bound) init name path).start s).1 =
          .ok r ∧
        ((ofDirectory files' body facts' listing (.bounded bound) init name path).start s).1 =
          .ok r' ∧
        r.Renamed σ r' := by
  have howners : Owners.loadedFrom files' listing = Owners.loadedFrom files listing := by
    rw [Owners.loadedFrom, Owners.loadedFrom, hlisting]
  rw [(ofDirectory_yields s _).start.1, (ofDirectory_yields s _).start.1, Analysis.loadedFrom,
    Analysis.loadedFrom, howners]
  rcases h.loadedFrom_alike with ⟨e, e', he, he'⟩ | ⟨store, store', hs, hs', halike, halike'⟩
  · rw [he, he']
    exact .inl ⟨e, e', rfl, rfl⟩
  · rw [hs, hs', ok_bind, ok_bind]
    rcases Owners.loadedFrom files listing with e | owners
    · exact .inl ⟨e, e, rfl, rfl⟩
    · exact ofAnalysis_alike halike halike' owners

end LineOrder

/-- The same facts twice: the second time in another order, with a repetition and with quotes. -/
def shuffledFiles : FileTree :=
  ⟨[(⟨.working, ["plain"]⟩, .directory),
    (⟨.working, ["plain", "borrow_region.facts"]⟩, .file []),
    (⟨.working, ["plain", "outlives.facts"]⟩, .file (Utf8.encode
      "'_#1r\t'_#2r\tMid(bb0[0])\n'_#3r\t'_#4r\tMid(bb0[1])\n")),
    (⟨.working, ["plain", "region_live_at.facts"]⟩, .file (Utf8.encode
      "'_#2r\tMid(bb0[0])\n'_#4r\tMid(bb0[1])\n")),
    (⟨.working, ["shuffled"]⟩, .directory),
    (⟨.working, ["shuffled", "borrow_region.facts"]⟩, .file []),
    (⟨.working, ["shuffled", "outlives.facts"]⟩, .file (Utf8.encode
      "'_#3r\t\"'_#4r\"\tMid(bb0[1])\n'_#1r\t'_#2r\tMid(bb0[0])\n'_#3r\t'_#4r\tMid(bb0[1])\n")),
    (⟨.working, ["shuffled", "region_live_at.facts"]⟩, .file (Utf8.encode
      "'_#4r\tMid(bb0[1])\n\"'_#2r\"\tMid(bb0[0])\n")),
    (⟨.working, ["listing"]⟩, .file [])]⟩

def twoMoves : Body :=
  { blocks := [⟨0, [{ kind := .assign }, { kind := .assign }], some { kind := .return }⟩] }

def plainStore : FactStore where
  points := .ofPoints [⟨⟨0, 0⟩, .mid⟩, ⟨⟨0, 1⟩, .mid⟩]
  facts := { outlives := [(3, 4, 1), (1, 2, 0)], regionLiveAt := [(4, 1), (2, 0)] }

def plainAnalysis : Analysis where
  facts := { plainStore.facts with borrowRegion := [(4, 2, 1), (2, 1, 0)] }
  output :=
    { borrowLive := [(0, [1]), (1, [2])]
      subset := [(0, [(1, [2])]), (1, [(3, [4])])]
      restricts := [(0, [(2, [1])]), (1, [(4, [2])])] }
  points := (PointTable.ofPoints [⟨⟨0, 0⟩, .mid⟩, ⟨⟨0, 1⟩, .mid⟩, ⟨⟨0, 0⟩, .start⟩,
    ⟨⟨0, 1⟩, .start⟩, ⟨⟨0, 2⟩, .start⟩, ⟨⟨0, 2⟩, .mid⟩]).freeze
  owners := .empty
  completion := { referenceMoves := [1, 2] }

theorem spellAlike_shuffledFiles :
    FactStore.SpellAlike shuffledFiles (.ofText "plain") shuffledFiles (.ofText "shuffled") where
  isDirectory := iff_of_true rfl rfl
  relations := by
    intro relation
    cases relation <;> decide +kernel

theorem eligible_plainStore :
    Completion.eligible plainStore.facts = [(0, [(1, 2)]), (1, [(3, 4)])] := by
  cbv

theorem resultOf_plainStore :
    Analysis.resultOf twoMoves plainStore .empty (.bounded 9) = .ok plainAnalysis := by
  refine Analysis.resultOf_eq_ok_iff.mpr ⟨by decide, ?_, ?_, ?_, ?_, rfl⟩
  · rw [Completion.run, eligible_plainStore]
    decide
  · rw [Completion.run, eligible_plainStore]
    decide
  · rw [Completion.run, eligible_plainStore]
    decide
  · cbv

theorem ofDirectory_plain :
    ∃ r, ((ofDirectory shuffledFiles twoMoves (.ofText "plain") (.ofText "listing") (.bounded 9)
      none "f" "f").start ()).1 = .ok r ∧ r.completion.referenceMoves = [1, 2] := by
  have hstore : FactStore.loadedFrom shuffledFiles (.ofText "plain") = .ok plainStore := by
    decide +kernel
  have howners : Owners.loadedFrom shuffledFiles (.ofText "listing") = .ok .empty := by
    decide +kernel
  obtain ⟨r, hr⟩ : ∃ r, build twoMoves plainAnalysis none "f" "f" = .ok r :=
    exists_build (by decide) (by decide) (by decide) _ _ _
  obtain ⟨blocks, -, heq⟩ := bind_eq_ok.mp hr
  rw [(ofDirectory_yields () _).start.1, Analysis.loadedFrom, hstore, howners, ok_bind, ok_bind,
    resultOf_plainStore, ofAnalysis, ok_bind, hr]
  refine ⟨r, rfl, ?_⟩
  rw [← Except.ok.inj heq]
  rfl

theorem shuffledFiles_lineOrder :
    FactStore.SpellAlike shuffledFiles (.ofText "plain") shuffledFiles (.ofText "shuffled") ∧
      ∃ r r' σ,
        ((ofDirectory shuffledFiles twoMoves (.ofText "plain") (.ofText "listing") (.bounded 9)
          none "f" "f").start ()).1 = .ok r ∧
        ((ofDirectory shuffledFiles twoMoves (.ofText "shuffled") (.ofText "listing") (.bounded 9)
          none "f" "f").start ()).1 = .ok r' ∧
        r.completion.referenceMoves = [1, 2] ∧ r.Renamed σ r' := by
  refine ⟨spellAlike_shuffledFiles, ?_⟩
  obtain ⟨r₀, hr₀, hmoves⟩ := ofDirectory_plain
  rcases ofDirectory_lineOrder () spellAlike_shuffledFiles rfl twoMoves 9 none "f" "f" with
    ⟨e, -, he, -⟩ | ⟨r, r', σ, hr, hr', hrenamed⟩
  · exact absurd (hr₀.symm.trans he) (by simp)
  · obtain rfl : r₀ = r := Except.ok.inj (hr₀.symm.trans hr)
    exact ⟨r₀, r', σ, hr₀, hr', hmoves, hrenamed⟩

end BorrowGraph.Report
