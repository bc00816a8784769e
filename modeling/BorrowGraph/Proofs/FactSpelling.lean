/-
What fact files spell.

A line of a fact file spells a tuple of regions, loans and points (`tuple?`), and the points
get their numbers while the file is read.  So what is read is told by the tuples alone, up to
the numbers of points:

* `readCells`, `readings`: what columns and lines spell, without any numbering;
* `Reads`: reading numbers the points of what is spelled and puts the numbers in their places,
  or it stops (`readColumns_reads`, `readLines_reads`);
* `spelledBy`: what the file of a relation spells; nothing if it cannot be read, or is missing
  and has to be there;
* `Gains`: what is added by reading relations one after the other, up to one that cannot be
  read (`loadRelations_cases`);
* `Holds`: a store has exactly the given tuples, under its own numbering, as has what is read
  from a directory (`loadedFrom_of_tuples`).
-/
import BorrowGraph.Proofs.PipelineRuns

namespace BorrowGraph.FactStore

open PointTable

/-! ### Cells -/

/-- What a column spells. -/
inductive Cell where
  | region (r : Region)
  | loan (l : Loan)
  | point (p : Point)
  deriving DecidableEq, Repr

namespace Cell

/-- The column in which a cell stands. -/
def column : Cell → Column
  | .region _ => .region
  | .loan _ => .loan
  | .point _ => .point

def point? : Cell → Option Point
  | .point p => some p
  | _ => none

/-- The number of a cell. -/
def number (t : PointTable) : Cell → Int
  | .region r => r
  | .loan l => l
  | .point p => t.number p

/-- A number stays what it is when points are appended. -/
theorem number_of_prefix {t t' : PointTable} (h : t.points <+: t'.points) {c : Cell}
    (hc : ∀ p, c = .point p → p ∈ t.points) : c.number t' = c.number t := by
  cases c with
  | region r => rfl
  | loan l => rfl
  | point p => exact PointTable.number_of_prefix h (hc p rfl)

end Cell

/-- The points of a tuple. -/
def pointsOf (cells : List Cell) : List Point :=
  cells.filterMap Cell.point?

theorem mem_pointsOf {cells : List Cell} {p : Point} :
    p ∈ pointsOf cells ↔ Cell.point p ∈ cells := by
  rw [pointsOf, List.mem_filterMap]
  constructor
  · rintro ⟨c, hc, hp⟩
    cases c with
    | region r => cases hp
    | loan l => cases hp
    | point q => exact Option.some_inj.mp hp ▸ hc
  · intro h
    exact ⟨_, h, rfl⟩

/-- A tuple by its numbers. -/
def rowOf (t : PointTable) (cells : List Cell) : List Int :=
  cells.map (Cell.number t)

theorem rowOf_of_prefix {t t' : PointTable} (h : t.points <+: t'.points) {cells : List Cell}
    (hcells : ∀ p ∈ pointsOf cells, p ∈ t.points) : rowOf t' cells = rowOf t cells := by
  refine List.map_congr_left fun c hc => Cell.number_of_prefix h fun p hp => ?_
  exact hcells p (mem_pointsOf.mpr (hp ▸ hc))

/-! ### Columns -/

/-- What a column spells. -/
def readCell : Column → String → Option Cell
  | .region, s => (Region.read s).toOption.map .region
  | .loan, s => (Loan.read s).toOption.map .loan
  | .point, s => (Point.read s).toOption.map .point

/-- What columns spell. -/
def readCells : List Column → List String → Option (List Cell)
  | column :: columns, s :: rest => do
    let cell ← readCell column s
    let cells ← readCells columns rest
    return cell :: cells
  | _, _ => some []

theorem column_of_readCell {column : Column} {s : String} {cell : Cell}
    (h : readCell column s = some cell) : cell.column = column := by
  cases column with
  | region =>
    obtain ⟨r, -, rfl⟩ := Option.map_eq_some_iff.mp h
    rfl
  | loan =>
    obtain ⟨l, -, rfl⟩ := Option.map_eq_some_iff.mp h
    rfl
  | point =>
    obtain ⟨p, -, rfl⟩ := Option.map_eq_some_iff.mp h
    rfl

theorem readCells_cons {column : Column} {columns : List Column} {s : String} {rest : List String}
    {cells : List Cell} :
    readCells (column :: columns) (s :: rest) = some cells ↔
      ∃ cell cells', readCell column s = some cell ∧ readCells columns rest = some cells' ∧
        cells = cell :: cells' := by
  simp only [readCells, Option.bind_eq_bind, Option.bind_eq_some_iff, Option.pure_def,
    Option.some_inj]
  constructor
  · rintro ⟨cell, hcell, cells', hcells, rfl⟩
    exact ⟨cell, cells', hcell, hcells, rfl⟩
  · rintro ⟨cell, cells', hcell, hcells, rfl⟩
    exact ⟨cell, hcell, cells', hcells, rfl⟩

/-- Each cell stands in its column. -/
theorem map_column_of_readCells {columns : List Column} {fields : List String} {cells : List Cell}
    (hlength : fields.length = columns.length) (h : readCells columns fields = some cells) :
    cells.map Cell.column = columns := by
  induction columns generalizing fields cells with
  | nil =>
    obtain rfl := Option.some_inj.mp h
    rfl
  | cons column columns ih =>
    rcases fields with _ | ⟨s, rest⟩
    · simp at hlength
    · obtain ⟨cell, cells', hcell, hcells, rfl⟩ := readCells_cons.mp h
      rw [List.map_cons, column_of_readCell hcell, ih (Nat.succ.inj hlength) hcells]

/-- What becomes of reading from a table: what is spelled is read, under the numbers that its
points have then, or reading stops.  If nothing is spelled it has to stop, and only a frozen
table may stop it otherwise. -/
inductive Reads {α β : Type} (t : PointTable) (IsSpelled : α → Prop) (points : α → List Point)
    (row : PointTable → α → β) : PointTable × Except Failure β → Prop where
  | read {a : α} {t' : PointTable} (hspelled : IsSpelled a) (hgrows : t.Grows (points a) t') :
      Reads t IsSpelled points row (t', .ok (row t' a))
  | stopped {t' : PointTable} {e : Failure} (hextends : t.Extends t')
      (hspelled : t.frozen = false → ∀ a, ¬ IsSpelled a) :
      Reads t IsSpelled points row (t', .error e)

theorem readColumn_cases (t : PointTable) (column : Column) (s : String) :
    (∃ cell t', readCell column s = some cell ∧ readColumn t column s = (t', .ok (cell.number t')) ∧
      t.Grows (pointsOf [cell]) t') ∨
    ∃ e, readColumn t column s = (t, .error e) ∧ (t.frozen = false → readCell column s = none) := by
  cases column with
  | region =>
    rw [readCell, readColumn]
    rcases Region.read s with f | r
    · exact .inr ⟨_, rfl, fun _ => rfl⟩
    · exact .inl ⟨.region r, t, rfl, rfl, Grows.refl t⟩
  | loan =>
    rw [readCell, readColumn]
    rcases Loan.read s with f | l
    · exact .inr ⟨_, rfl, fun _ => rfl⟩
    · exact .inl ⟨.loan l, t, rfl, rfl, Grows.refl t⟩
  | point =>
    rw [readCell, readColumn]
    rcases Point.read s with f | p
    · exact .inr ⟨_, rfl, fun _ => rfl⟩
    · rcases intern_cases t p with ⟨hp, hgrows⟩ | ⟨hp, ht, -⟩
      · exact .inl ⟨.point p, t.meet p, rfl, hp, hgrows⟩
      · exact .inr ⟨lateFailure p, hp, fun hopen => absurd ht (by simp [hopen])⟩

theorem readColumns_reads (t : PointTable) (columns : List Column) (fields : List String) :
    Reads t (fun cells => readCells columns fields = some cells) pointsOf rowOf
      (readColumns t columns fields) := by
  induction columns generalizing t fields with
  | nil => exact .read (a := []) rfl (Grows.refl t)
  | cons column columns ih =>
    rcases fields with _ | ⟨s, rest⟩
    · exact .read (a := []) rfl (Grows.refl t)
    · rw [readColumns]
      rcases readColumn_cases t column s with ⟨cell, t₁, hcell, hread, hgrows⟩ | ⟨e, hread, hnone⟩
      · rw [hread]
        have hih := ih t₁ rest
        rcases hrest : readColumns t₁ columns rest with ⟨t', e | ns⟩
        · simp only [hrest] at hih ⊢
          obtain ⟨-, hnone⟩ | ⟨hextends, hnone⟩ := hih
          refine .stopped (hgrows.toExtends.trans hextends) fun ht cells hcells => ?_
          obtain ⟨cell', cells', -, hcells', -⟩ := readCells_cons.mp hcells
          exact hnone (hgrows.frozen.trans ht) cells' hcells'
        · simp only [hrest] at hih ⊢
          obtain @⟨cells, _, hcells, hgrows'⟩ := hih
          -- The number of the first cell stays valid while the others are read.
          have hfirst : cell.number t' = cell.number t₁ := by
            refine Cell.number_of_prefix hgrows'.appended fun p hp => ?_
            exact (hgrows.mem_iff p).mpr (.inr (mem_pointsOf.mpr (by simp [hp])))
          have hpoints : pointsOf (cell :: cells) = pointsOf [cell] ++ pointsOf cells :=
            List.filterMap_append (l := [cell])
          have hrow : rowOf t' (cell :: cells) = cell.number t₁ :: rowOf t' cells := by
            rw [rowOf, List.map_cons, hfirst, rowOf]
          rw [← hrow]
          refine .read (a := cell :: cells) (readCells_cons.mpr ⟨cell, cells, hcell, hcells, rfl⟩)
            ?_
          rw [hpoints]
          exact hgrows.trans hgrows'
      · rw [hread]
        refine .stopped (Extends.refl t) fun ht cells hcells => ?_
        obtain ⟨cell, cells', hcell, -⟩ := readCells_cons.mp hcells
        rw [hnone ht] at hcell
        cases hcell

/-! ### Lines -/

/-- The tuple that a line spells. -/
def tuple? (columns : List Column) (line : List Char) : Option (List Cell) :=
  let fields := (Text.splitAtChar '\t' line).map fun f => String.ofList (unquote f)
  if fields.length ≠ columns.length then none else readCells columns fields

/-- What lines spell, blank ones aside; a line that spells no tuple counts as such. -/
def readings (columns : List Column) (lines : List (List Char)) : List (Option (List Cell)) :=
  (lines.filter fun line => !(Text.trim line).isEmpty).map (tuple? columns)

theorem readings_of_blank {columns : List Column} {line : List Char} {lines : List (List Char)}
    (h : (Text.trim line).isEmpty = true) :
    readings columns (line :: lines) = readings columns lines := by
  rw [readings, List.filter_cons_of_neg (by simp [h])]
  rfl

theorem readings_cons {columns : List Column} {line : List Char} {lines : List (List Char)}
    (h : ¬ (Text.trim line).isEmpty = true) :
    readings columns (line :: lines) = tuple? columns line :: readings columns lines := by
  rw [readings, List.filter_cons_of_pos (by simp [h])]
  rfl

/-- Readings among which there is no failure are those of tuples. -/
theorem exists_map_some {α : Type} {xs : List (Option α)} (h : none ∉ xs) :
    ∃ ys : List α, xs = ys.map some := by
  induction xs with
  | nil => exact ⟨[], rfl⟩
  | cons x xs ih =>
    rw [List.mem_cons, not_or] at h
    obtain ⟨ys, rfl⟩ := ih h.2
    rcases x with _ | y
    · exact absurd rfl h.1
    · exact ⟨y :: ys, rfl⟩

theorem map_column_of_tuple? {columns : List Column} {line : List Char} {cells : List Cell}
    (h : tuple? columns line = some cells) : cells.map Cell.column = columns := by
  rw [tuple?] at h
  split at h
  · cases h
  · rename_i hlength
    exact map_column_of_readCells (not_not.mp hlength) h

theorem readLine_reads (path : Path) (columns : List Column) (n : Nat) (t : PointTable)
    (line : List Char) :
    Reads t (fun cells => tuple? columns line = some cells) pointsOf rowOf
      (readLine path columns n t line) := by
  simp only [readLine, tuple?]
  split
  · exact .stopped (Extends.refl t) (by simp)
  · have hcolumns := readColumns_reads t columns
      ((Text.splitAtChar '\t' line).map fun f => String.ofList (unquote f))
    rcases hread : readColumns t columns
      ((Text.splitAtChar '\t' line).map fun f => String.ofList (unquote f)) with ⟨t', e | row⟩
    · rw [hread] at hcolumns
      obtain ⟨-, -⟩ | ⟨hextends, hnone⟩ := hcolumns
      exact .stopped hextends hnone
    · rw [hread] at hcolumns
      exact hcolumns

/-- Lines that spell tuples are read as their numbers, and all their points are numbered. -/
theorem readLines_reads (path : Path) (columns : List Column) (n : Nat) (t : PointTable)
    (lines : List (List Char)) :
    Reads t (fun tuples : List (List Cell) => readings columns lines = tuples.map some)
      (List.flatMap pointsOf) (fun t' tuples => tuples.map (rowOf t'))
      (readLines path columns n t lines) := by
  induction lines generalizing t n with
  | nil => exact .read (a := []) rfl (Grows.refl t)
  | cons line lines ih =>
    rw [readLines]
    by_cases hblank : (Text.trim line).isEmpty = true
    · rw [if_pos hblank]
      simp only [readings_of_blank hblank]
      exact ih (n + 1) t
    · rw [if_neg hblank]
      simp only [readings_cons hblank]
      have hline := readLine_reads path columns n t line
      rcases hread : readLine path columns n t line with ⟨t₁, e | row⟩
      · rw [hread] at hline
        obtain ⟨-, -⟩ | ⟨hextends, hnone⟩ := hline
        refine .stopped hextends fun ht tuples htuples => ?_
        rcases tuples with _ | ⟨cells, tuples⟩
        · cases htuples
        · exact hnone ht cells (List.cons.inj htuples).1
      · rw [hread] at hline
        obtain @⟨cells, _, hcells, hgrows⟩ := hline
        have hih := ih (n + 1) t₁
        rcases hrest : readLines path columns (n + 1) t₁ lines with ⟨t', e | rows⟩
        · simp only [hrest] at hih ⊢
          obtain ⟨-, -⟩ | ⟨hextends, hnone⟩ := hih
          refine .stopped (hgrows.toExtends.trans hextends) fun ht tuples htuples => ?_
          rcases tuples with _ | ⟨cells', tuples⟩
          · cases htuples
          · exact hnone (hgrows.frozen.trans ht) tuples (List.cons.inj htuples).2
        · simp only [hrest] at hih ⊢
          obtain @⟨tuples, _, htuples, hgrows'⟩ := hih
          -- The row was written down before the other lines were read, with numbers that they keep.
          have hrow : rowOf t' cells = rowOf t₁ cells :=
            rowOf_of_prefix hgrows'.appended fun p hp => (hgrows.mem_iff p).mpr (.inr hp)
          rw [← hrow]
          refine .read (a := cells :: tuples) ?_ ?_
          · rw [hcells, htuples, List.map_cons]
          · rw [List.flatMap_cons]
            exact hgrows.trans hgrows'

/-! ### Rows -/

theorem map_insert {α β : Type} [BEq α] [LawfulBEq α] [BEq β] [LawfulBEq β] {g : α → β}
    (hg : Function.Injective g) (a : α) (xs : List α) :
    (xs.insert a).map g = (xs.map g).insert (g a) := by
  by_cases ha : a ∈ xs
  · rw [List.insert_of_mem ha, List.insert_of_mem (List.mem_map_of_mem ha)]
  · have hga : g a ∉ xs.map g := by
      rw [List.mem_map_of_injective hg]
      exact ha
    rw [List.insert_of_not_mem ha, List.insert_of_not_mem hga, List.map_cons]

/-- A row is added to no other relation. -/
theorem rows_insert_of_ne {relation relation' : Relation} (h : relation' ≠ relation) (f : Facts)
    (row : List Int) : (f.insert relation row).rows relation' = f.rows relation' := by
  unfold Facts.insert
  split
  case h_8 => rfl
  -- Either the relations are different, and the row goes elsewhere, or they are not.
  all_goals cases relation' <;> trivial

/-- A row that fits its relation is added to it. -/
theorem rows_insert {relation : Relation} {row : List Int}
    (h : row.length = (columns relation).length) (f : Facts) :
    (f.insert relation row).rows relation = (f.rows relation).insert row := by
  have hpair : Function.Injective fun x : Int × Int => [x.1, x.2] := by
    rintro ⟨a, b⟩ ⟨c, d⟩ hx
    simpa using hx
  have htriple : Function.Injective fun x : Int × Int × Int => [x.1, x.2.1, x.2.2] := by
    rintro ⟨a, b, c⟩ ⟨d, e, g⟩ hx
    simpa using hx
  cases relation with
  | borrowRegion =>
    obtain ⟨r, l, p, rfl⟩ := List.length_eq_three.mp h
    exact map_insert htriple _ _
  | universalRegion =>
    obtain ⟨r, rfl⟩ := List.length_eq_one_iff.mp h
    exact map_insert List.singleton_injective _ _
  | outlives =>
    obtain ⟨r₁, r₂, p, rfl⟩ := List.length_eq_three.mp h
    exact map_insert htriple _ _
  | regionLiveAt =>
    obtain ⟨r, p, rfl⟩ := List.length_eq_two.mp h
    exact map_insert hpair _ _
  | cfgEdge =>
    obtain ⟨p, q, rfl⟩ := List.length_eq_two.mp h
    exact map_insert hpair _ _
  | killed =>
    obtain ⟨l, p, rfl⟩ := List.length_eq_two.mp h
    exact map_insert hpair _ _
  | invalidates =>
    obtain ⟨p, l, rfl⟩ := List.length_eq_two.mp h
    exact map_insert hpair _ _

theorem rows_insertAll_of_ne {relation relation' : Relation} (h : relation' ≠ relation)
    (rows : List (List Int)) (f : Facts) :
    (f.insertAll relation rows).rows relation' = f.rows relation' := by
  induction rows generalizing f with
  | nil => rfl
  | cons row rows ih => exact (ih (f.insert relation row)).trans (rows_insert_of_ne h f row)

/-- Rows that fit their relation are added to it, each once. -/
theorem rows_insertAll {relation : Relation} {rows : List (List Int)}
    (h : ∀ row ∈ rows, row.length = (columns relation).length) (f : Facts) :
    (∀ row, row ∈ (f.insertAll relation rows).rows relation ↔
        row ∈ f.rows relation ∨ row ∈ rows) ∧
      ((f.rows relation).Nodup → ((f.insertAll relation rows).rows relation).Nodup) := by
  induction rows generalizing f with
  | nil => exact ⟨by simp [Facts.insertAll], id⟩
  | cons row rows ih =>
    rw [List.forall_mem_cons] at h
    obtain ⟨hmem, hnodup⟩ := ih h.2 (f.insert relation row)
    rw [rows_insert h.1] at hmem hnodup
    refine ⟨fun row' => (hmem row').trans ?_, fun hf => hnodup hf.insert⟩
    rw [List.mem_insert_iff, List.mem_cons]
    tauto

/-! ### Files -/

/-- What the file of a relation in a directory spells.  If it is missing it spells nothing at
all, or no tuple where it need not be there. -/
def spelledBy (files : FileTree) (directory : Path) (relation : Relation) :
    Option (List (Option (List Cell))) :=
  match files.isThere (directory.child (fileOf relation)) with
  | .error _ => none
  | .ok true =>
    (fileLines files (directory.child (fileOf relation))).toOption.map (readings (columns relation))
  | .ok false => if isRequired relation then none else some []

/-- The file of a relation spells tuples, in each of its lines. -/
def Spells (files : FileTree) (directory : Path) (relation : Relation)
    (tuples : List (List Cell)) : Prop :=
  spelledBy files directory relation = some (tuples.map some)

/-- The tuples that the file of a relation spells in some of its lines. -/
def tuplesIn (files : FileTree) (directory : Path) (relation : Relation) : List (List Cell) :=
  ((spelledBy files directory relation).getD []).filterMap id

theorem Spells.tuplesIn_eq {files : FileTree} {directory : Path} {relation : Relation}
    {tuples : List (List Cell)} (h : Spells files directory relation tuples) :
    tuplesIn files directory relation = tuples := by
  rw [tuplesIn, h]
  simp [List.filterMap_map]

theorem Spells.map_column {files : FileTree} {directory : Path} {relation : Relation}
    {tuples : List (List Cell)} (h : Spells files directory relation tuples) {cells : List Cell}
    (hcells : cells ∈ tuples) : cells.map Cell.column = columns relation := by
  rw [Spells, spelledBy] at h
  split at h
  · cases h
  · obtain ⟨lines, -, hreadings⟩ := Option.map_eq_some_iff.mp h
    have hmem : some cells ∈ readings (columns relation) lines := by
      rw [hreadings]
      exact List.mem_map_of_mem hcells
    obtain ⟨line, -, htuple⟩ := List.mem_map.mp hmem
    exact map_column_of_tuple? htuple
  · split at h
    · cases h
    · rw [List.map_eq_nil_iff.mp (Option.some_inj.mp h).symm] at hcells
      cases hcells

/-- A store after the tuples of a relation have been read. -/
def withTuples (store : FactStore) (points : PointTable) (relation : Relation)
    (tuples : List (List Cell)) : FactStore :=
  ⟨points, store.facts.insertAll relation (tuples.map (rowOf points))⟩

section File

variable {files : FileTree} {path : Path} {relation : Relation} {store : FactStore}
  {lines : List (List Char)} {points : PointTable}

theorem loadFile_unreadable {e : Failure} (h : fileLines files path = .error e) :
    (loadFile files path relation).Yields store (.error e) store := by
  rw [loadFile, h]
  exact (Task.yields_throw store e).bind_error

theorem loadFile_read {tuples : List (List Cell)} (h : fileLines files path = .ok lines)
    (hread : readLines path (columns relation) 1 store.points lines =
      (points, .ok (tuples.map (rowOf points)))) :
    (loadFile files path relation).Yields store (.ok ())
      (store.withTuples points relation tuples) := by
  rw [loadFile, h]
  refine (Task.yields_pure store lines).bind ((Task.yields_getState store).bind ?_)
  rw [hread]
  exact (Task.yields_setState store _).bind ((Task.yields_pure _ _).bind
    ((Task.yields_setState _ _).bind (Task.yields_note _ _)))

theorem loadFile_refused {e : Failure} (h : fileLines files path = .ok lines)
    (hread : readLines path (columns relation) 1 store.points lines = (points, .error e)) :
    (loadFile files path relation).Yields store (.error e) { store with points := points } := by
  rw [loadFile, h]
  refine (Task.yields_pure store lines).bind ((Task.yields_getState store).bind ?_)
  rw [hread]
  exact (Task.yields_setState store _).bind (Task.yields_throw _ e).bind_error

end File

/-- A relation is read and its tuples are added, or reading it stops and adds nothing. -/
theorem loadRelation_cases (files : FileTree) (directory : Path) (relation : Relation)
    (store : FactStore) :
    (∃ tuples points, Spells files directory relation tuples ∧
      store.points.Grows (tuples.flatMap pointsOf) points ∧
      (loadRelation files directory relation).Yields store (.ok ())
        (store.withTuples points relation tuples)) ∨
    ∃ e points, store.points.Extends points ∧
      (store.points.frozen = false → ∀ tuples, ¬ Spells files directory relation tuples) ∧
      (loadRelation files directory relation).Yields store (.error e)
        { store with points := points } := by
  rw [loadRelation_eq]
  simp only [Spells, spelledBy]
  rcases files.isThere (directory.child (fileOf relation)) with f | _ | _
  · exact .inr ⟨_, _, Extends.refl _, by simp, Task.yields_throw store _⟩
  · rcases isRequired relation with _ | _
    · -- A file that need not be there spells no tuple when it is missing.
      exact .inl ⟨[], store.points, rfl, Grows.refl _, Task.yields_note store _⟩
    · exact .inr ⟨_, _, Extends.refl _, by simp, Task.yields_throw store _⟩
  · rcases hlines : fileLines files (directory.child (fileOf relation)) with e | lines
    · exact .inr ⟨e, store.points, Extends.refl _, by simp [Except.toOption],
        loadFile_unreadable hlines⟩
    · have hreads := readLines_reads (directory.child (fileOf relation)) (columns relation) 1
        store.points lines
      rcases hread : readLines (directory.child (fileOf relation)) (columns relation) 1
        store.points lines with ⟨points, e | rows⟩
      · rw [hread] at hreads
        obtain ⟨-, -⟩ | ⟨hextends, hnone⟩ := hreads
        refine .inr
          ⟨e, points, hextends, fun ht tuples htuples => ?_, loadFile_refused hlines hread⟩
        exact hnone ht tuples (Option.some_inj.mp htuples)
      · rw [hread] at hreads
        obtain @⟨tuples, _, htuples, hgrows⟩ := hreads
        exact .inl ⟨tuples, points, congrArg some htuples, hgrows, loadFile_read hlines hread⟩

/-! ### Directories -/

/-- A store to which the tuples of several relations were added. -/
structure Gains (store : FactStore) (relations : List Relation)
    (tuples : Relation → List (List Cell)) (store' : FactStore) : Prop where
  points : store.points.Grows (relations.flatMap fun relation => (tuples relation).flatMap pointsOf)
    store'.points
  mem_rows : ∀ relation row, row ∈ store'.facts.rows relation ↔
    row ∈ store.facts.rows relation ∨
      relation ∈ relations ∧ ∃ cells ∈ tuples relation, rowOf store'.points cells = row
  nodup_rows : ∀ relation, (store.facts.rows relation).Nodup → (store'.facts.rows relation).Nodup
  kept : ∀ relation, relation ∉ relations → store'.facts.rows relation = store.facts.rows relation

namespace Gains

variable {store store' store'' : FactStore} {tuples : Relation → List (List Cell)}

theorem refl (store : FactStore) (tuples : Relation → List (List Cell)) :
    store.Gains [] tuples store where
  points := Grows.refl _
  mem_rows := by simp
  nodup_rows := fun _ h => h
  kept := fun _ _ => rfl

theorem mem_points {relations : List Relation} (h : store.Gains relations tuples store')
    {relation : Relation} (hrelation : relation ∈ relations) {cells : List Cell}
    (hcells : cells ∈ tuples relation) {p : Point} (hp : p ∈ pointsOf cells) :
    p ∈ store'.points.points := by
  refine (h.points.mem_iff p).mpr (.inr (List.mem_flatMap.mpr ⟨relation, hrelation, ?_⟩))
  exact List.mem_flatMap.mpr ⟨cells, hcells, hp⟩

theorem trans {relations relations' : List Relation} (h : store.Gains relations tuples store')
    (h' : store'.Gains relations' tuples store'') :
    store.Gains (relations ++ relations') tuples store'' where
  points := by
    rw [List.flatMap_append]
    exact h.points.trans h'.points
  mem_rows := by
    intro relation row
    -- The rows that were added first have kept their numbers.
    have hold : relation ∈ relations → ∀ cells ∈ tuples relation,
        rowOf store''.points cells = rowOf store'.points cells := fun hrelation cells hcells =>
      rowOf_of_prefix h'.points.appended fun p hp => h.mem_points hrelation hcells hp
    rw [h'.mem_rows, h.mem_rows, List.mem_append]
    constructor
    · rintro ((hrow | ⟨hrelation, cells, hcells, hrow⟩) | ⟨hrelation, hnew⟩)
      · exact .inl hrow
      · exact .inr ⟨.inl hrelation, cells, hcells, (hold hrelation cells hcells).trans hrow⟩
      · exact .inr ⟨.inr hrelation, hnew⟩
    · rintro (hrow | ⟨hrelation | hrelation, cells, hcells, hrow⟩)
      · exact .inl (.inl hrow)
      · exact .inl (.inr ⟨hrelation, cells, hcells, (hold hrelation cells hcells).symm.trans hrow⟩)
      · exact .inr ⟨hrelation, cells, hcells, hrow⟩
  nodup_rows := fun relation hrows => h'.nodup_rows relation (h.nodup_rows relation hrows)
  kept := by
    intro relation hrelation
    rw [List.mem_append, not_or] at hrelation
    rw [h'.kept relation hrelation.2, h.kept relation hrelation.1]

theorem withTuples {points : PointTable} {relation : Relation}
    (hgrows : store.points.Grows ((tuples relation).flatMap pointsOf) points)
    (hfits : ∀ cells ∈ tuples relation, cells.map Cell.column = columns relation) :
    store.Gains [relation] tuples (store.withTuples points relation (tuples relation)) := by
  have hlength : ∀ row ∈ (tuples relation).map (rowOf points),
      row.length = (columns relation).length := by
    intro row hrow
    obtain ⟨cells, hcells, rfl⟩ := List.mem_map.mp hrow
    rw [rowOf, List.length_map, ← hfits cells hcells, List.length_map]
  obtain ⟨hrows, hnodup⟩ := rows_insertAll hlength store.facts
  have hpoints : store.points.Grows ([relation].flatMap fun r => (tuples r).flatMap pointsOf)
      points := by
    simpa using hgrows
  refine ⟨hpoints, fun relation' row => ?_, fun relation' => ?_, fun relation' hne => ?_⟩
  · by_cases heq : relation' = relation
    · subst heq
      rw [FactStore.withTuples, hrows, List.mem_map]
      simp
    · rw [FactStore.withTuples, rows_insertAll_of_ne heq]
      simp [heq]
  · by_cases heq : relation' = relation
    · subst heq
      exact hnodup
    · rw [FactStore.withTuples, rows_insertAll_of_ne heq]
      exact id
  · exact rows_insertAll_of_ne (by simpa using hne) _ _

end Gains

section Directory

variable {files : FileTree} {directory : Path}

/-- Relations are read one by one, up to the end or to one that cannot be read. -/
theorem loadRelations_cases (files : FileTree) (directory : Path) (relations : List Relation)
    (store : FactStore) :
    ∃ before later s, relations = before ++ later ∧
      (∀ relation ∈ before, Spells files directory relation (tuplesIn files directory relation)) ∧
      store.Gains before (tuplesIn files directory) s ∧
      (loadRelations files directory before).Yields store (.ok ()) s ∧
      (later = [] ∨ ∃ relation rest e points, later = relation :: rest ∧
        s.points.Extends points ∧
        (store.points.frozen = false → ∀ tuples, ¬ Spells files directory relation tuples) ∧
        (loadRelation files directory relation).Yields s (.error e) { s with points := points } ∧
        (loadRelations files directory relations).Yields store (.error e)
          { s with points := points }) := by
  induction relations generalizing store with
  | nil => exact ⟨[], [], store, rfl, by simp, Gains.refl _ _, Task.yields_pure store (), .inl rfl⟩
  | cons relation relations ih =>
    rcases loadRelation_cases files directory relation store with
      ⟨tuples, points, hspells, hgrows, hload⟩ | ⟨e, points, hextends, hnone, hload⟩
    · obtain rfl := hspells.tuplesIn_eq
      have hgains := Gains.withTuples hgrows fun cells hcells => hspells.map_column hcells
      obtain ⟨before, later, s, rfl, hbefore, hgains', hread, hlater⟩ :=
        ih (store.withTuples points relation (tuplesIn files directory relation))
      refine ⟨relation :: before, later, s, rfl, List.forall_mem_cons.mpr ⟨hspells, hbefore⟩,
        hgains.trans hgains', hload.bind hread, ?_⟩
      rcases hlater with hlater | ⟨k, rest, e, points', hlater, hextends, hnone, hfails, hstop⟩
      · exact .inl hlater
      · refine .inr ⟨k, rest, e, points', hlater, hextends, fun ht => ?_, hfails, hload.bind hstop⟩
        exact hnone (hgrows.frozen.trans ht)
    · exact ⟨[], relation :: relations, store, rfl, by simp, Gains.refl _ _,
        Task.yields_pure store (),
        .inr ⟨relation, relations, e, points, rfl, hextends, hnone, hload, hload.bind_error⟩⟩

theorem mem_all (relation : Relation) : relation ∈ Relation.all := by
  cases relation <;> decide

/-- A directory is read whole, or up to a relation that cannot be read, of which only points
are kept. -/
theorem load_cases (hdirectory : files.isDirectory directory = .ok true) (store : FactStore) :
    (∃ s, (∀ relation, Spells files directory relation (tuplesIn files directory relation)) ∧
      store.Gains Relation.all (tuplesIn files directory) s ∧
      (load files directory).Yields store (.ok ()) s) ∨
    ∃ before relation later s e points, Relation.all = before ++ relation :: later ∧
      (∀ r ∈ before, Spells files directory r (tuplesIn files directory r)) ∧
      store.Gains before (tuplesIn files directory) s ∧
      (loadRelations files directory before).Yields store (.ok ()) s ∧
      s.points.Extends points ∧
      (store.points.frozen = false → ∀ tuples, ¬ Spells files directory relation tuples) ∧
      (loadRelation files directory relation).Yields s (.error e) { s with points := points } ∧
      (load files directory).Yields store (.error e) { s with points := points } := by
  have hload : ∀ {r : Except Failure Unit} {s : FactStore},
      (loadRelations files directory Relation.all).Yields store r s →
      (load files directory).Yields store r s := by
    intro r s hyields
    rw [load, hdirectory]
    exact (Task.yields_note _ _).bind ((Task.yields_pure _ true).bind hyields)
  obtain ⟨before, later, s, hall, hbefore, hgains, hread, hlater⟩ :=
    loadRelations_cases files directory Relation.all store
  rcases hlater with rfl | ⟨relation, rest, e, points, rfl, hextends, hnone, hfails, hstop⟩
  · rw [List.append_nil] at hall
    rw [← hall] at hbefore hgains hread
    exact .inl ⟨s, fun relation => hbefore relation (mem_all relation), hgains, hload hread⟩
  · exact .inr ⟨before, relation, rest, s, e, points, hall, hbefore, hgains, hread, hextends, hnone,
      hfails, hload hstop⟩

/-- Where there is no directory nothing is read. -/
theorem load_elsewhere (hdirectory : files.isDirectory directory ≠ .ok true) (store : FactStore) :
    ∃ e, (load files directory).Yields store (.error e) store := by
  rw [load]
  rcases hstat : files.isDirectory directory with f | _ | _
  · exact ⟨_, (Task.yields_note _ _).bind (Task.yields_throw _ _).bind_error⟩
  · exact ⟨_, (Task.yields_note _ _).bind
      ((Task.yields_pure _ false).bind (Task.yields_throw _ _))⟩
  · exact absurd hstat hdirectory

/-- A store has exactly the given tuples, under its own numbering. -/
structure Holds (store : FactStore) (entries : List (Relation × List Cell)) : Prop where
  unfrozen : store.points.frozen = false
  mem_points : ∀ p, p ∈ store.points.points ↔ ∃ x ∈ entries, p ∈ pointsOf x.2
  fits : ∀ x ∈ entries, x.2.map Cell.column = columns x.1
  mem_rows : ∀ relation row, row ∈ store.facts.rows relation ↔
    ∃ cells, (relation, cells) ∈ entries ∧ rowOf store.points cells = row
  nodup_rows : ∀ relation, (store.facts.rows relation).Nodup

/-- The entries of several relations. -/
def entriesOf (tuples : Relation → List (List Cell)) (relations : List Relation) :
    List (Relation × List Cell) :=
  relations.flatMap fun relation => (tuples relation).map fun cells => (relation, cells)

theorem mem_entriesOf {tuples : Relation → List (List Cell)} {relations : List Relation}
    {x : Relation × List Cell} :
    x ∈ entriesOf tuples relations ↔ x.1 ∈ relations ∧ x.2 ∈ tuples x.1 := by
  obtain ⟨relation, cells⟩ := x
  simp [entriesOf]

theorem rows_empty (relation : Relation) : Facts.empty.rows relation = [] := by
  cases relation <;> rfl

/-- A store that has gained tuples from nothing holds these. -/
theorem Gains.holds {tuples : Relation → List (List Cell)} {relations : List Relation}
    {store : FactStore} (h : ({} : FactStore).Gains relations tuples store)
    (hfits : ∀ relation ∈ relations, ∀ cells ∈ tuples relation,
      cells.map Cell.column = columns relation) :
    store.Holds (entriesOf tuples relations) where
  unfrozen := h.points.frozen
  mem_points := by
    intro p
    rw [h.points.mem_iff]
    simp [mem_entriesOf, PointTable.empty, PointRegister.empty, and_assoc]
  fits := fun x hx => hfits x.1 (mem_entriesOf.mp hx).1 x.2 (mem_entriesOf.mp hx).2
  mem_rows := by
    intro relation row
    rw [h.mem_rows, rows_empty]
    simp [mem_entriesOf, and_assoc]
  nodup_rows := fun relation => h.nodup_rows relation (rows_empty relation ▸ List.nodup_nil)

/-- Files that spell tuples give a store that has exactly these. -/
theorem loadedFrom_of_tuples {tuples : Relation → List (List Cell)}
    (hdirectory : files.isDirectory directory = .ok true)
    (htuples : ∀ relation, Spells files directory relation (tuples relation)) :
    ∃ store, loadedFrom files directory = .ok store ∧
      store.Holds (entriesOf tuples Relation.all) := by
  obtain rfl : tuplesIn files directory = tuples :=
    funext fun relation => (htuples relation).tuplesIn_eq
  rcases load_cases hdirectory {} with
    ⟨store, -, hgains, hyields⟩ | ⟨-, relation, -, -, -, -, -, -, -, -, -, hnone, -⟩
  · refine ⟨store, ?_, hgains.holds fun relation _ cells hcells =>
      (htuples relation).map_column hcells⟩
    rw [loadedFrom, hyields.start.1, hyields.start.2]
    rfl
  · exact absurd (htuples relation) (hnone rfl _)

/-- A store that was read is open. -/
theorem unfrozen_of_loadedFrom {store : FactStore} (h : loadedFrom files directory = .ok store) :
    store.points.frozen = false := by
  by_cases hdirectory : files.isDirectory directory = .ok true
  · rcases load_cases hdirectory {} with
      ⟨s, -, hgains, hyields⟩ | ⟨-, -, -, s, e, points, -, -, -, -, -, -, -, hyields⟩
    · rw [loadedFrom, hyields.start.1, hyields.start.2] at h
      obtain rfl := Except.ok.inj h
      exact hgains.points.frozen
    · rw [loadedFrom, hyields.start.1] at h
      cases h
  · obtain ⟨e, hyields⟩ := load_elsewhere hdirectory {}
    rw [loadedFrom, hyields.start.1] at h
    cases h

theorem loadedFrom_fails (h : files.isDirectory directory = .ok true →
    ∃ relation, ∀ tuples, ¬ Spells files directory relation tuples) :
    ∃ e, loadedFrom files directory = .error e := by
  obtain ⟨e, s', hyields⟩ : ∃ e s', (load files directory).Yields {} (.error e) s' := by
    by_cases hdirectory : files.isDirectory directory = .ok true
    · obtain ⟨relation, hnot⟩ := h hdirectory
      rcases load_cases hdirectory {} with
        ⟨-, hspells, -⟩ | ⟨-, -, -, s, e, points, -, -, -, -, -, -, -, hyields⟩
      · exact absurd (hspells relation) (hnot _)
      · exact ⟨e, _, hyields⟩
    · obtain ⟨e, hyields⟩ := load_elsewhere hdirectory {}
      exact ⟨e, _, hyields⟩
  refine ⟨e, ?_⟩
  rw [loadedFrom, hyields.start.1]
  rfl

end Directory

end BorrowGraph.FactStore
