/-
The states of a store of facts.

A store is reached by reading directories one after the other, each of them whole or in part,
while its table of points is also used and frozen from outside (`Reached`).  What one call can
do is known from `load_cases`: the relations are read in order, up to the end or to one that
cannot be read, and of that one only points are kept.  From this:

* `IsResolved.load`, `Reached.isResolved`: the points of all rows are in the table, whatever
  failed on the way;
* `load_extends`: numbers keep their points;
* `load_gained`, `load_stopped`: what a call adds to the relations, and what it leaves as it
  was.
-/
import BorrowGraph.Proofs.FactFiles
import BorrowGraph.Proofs.PointHistory

namespace BorrowGraph

/-- The table after an operation from outside. -/
def PointTable.used (t : PointTable) (op : PointRegister.Operation) : PointTable :=
  ⟨(t.toPointRegister.perform op).1, t.inverse.perform op⟩

namespace FactStore

open PointTable

/-! ### Stores whose points are resolved -/

/-- Every row fits the columns of its relation, and the table resolves its points. -/
def IsResolved (store : FactStore) : Prop :=
  ∀ relation, ∀ row ∈ store.facts.rows relation,
    List.Forall₂ (fun column n => column = .point → ∃ p, store.points.resolve n = .ok p)
      (columns relation) row

theorem IsRow.resolved {t : PointTable} {cells : List Cell} {row : List Int}
    (h : IsRow t cells row) :
    List.Forall₂ (fun column n => column = .point → ∃ p, t.resolve n = .ok p)
      (cells.map Cell.column) row := by
  rw [List.forall₂_map_left_iff]
  refine h.imp fun cell n hn hcolumn => ?_
  cases cell with
  | region r => cases hcolumn
  | loan l => cases hcolumn
  | point p => exact ⟨p, hn⟩

section Resolved

variable {store : FactStore} (h : store.IsResolved)
include h

theorem IsResolved.mono {points : PointTable} (hpoints : store.points.points <+: points.points) :
    IsResolved ⟨points, store.facts⟩ := by
  intro relation row hrow
  refine (h relation row hrow).imp fun column n hn hcolumn => ?_
  obtain ⟨p, hp⟩ := hn hcolumn
  exact ⟨p, PointRegister.resolve_of_prefix hpoints hp⟩

theorem IsResolved.gains {relations : List Relation} {tuples : Relation → List (List Cell)}
    {store' : FactStore} (hgains : store.Gains relations tuples store')
    (hfits : ∀ relation ∈ relations, ∀ cells ∈ tuples relation,
      cells.map Cell.column = columns relation) : store'.IsResolved := by
  intro relation row hrow
  rcases (hgains.mem_rows relation row).mp hrow with hold | ⟨hrelation, cells, hcells, rfl⟩
  · -- The table has only grown, so an old row is resolved as before.
    exact h.mono hgains.points.appended relation row hold
  · have hrow' : IsRow store'.points cells (rowOf store'.points cells) :=
      isRow_rowOf fun p hp => hgains.mem_points hrelation hcells hp
    rw [← hfits relation hrelation cells hcells]
    exact hrow'.resolved

end Resolved

/-! ### One call -/

section Call

variable (files : FileTree) (directory : Path) (store : FactStore)

/-- What a call leaves: some relations were read, and then at most points were added. -/
theorem load_leaves : ∃ before s points,
    (∀ relation ∈ before, Spells files directory relation (tuplesIn files directory relation)) ∧
    store.Gains before (tuplesIn files directory) s ∧ s.points.Extends points ∧
    ((load files directory).start store).2.state = { s with points := points } := by
  by_cases hdirectory : files.isDirectory directory = .ok true
  · rcases load_cases hdirectory store with
      ⟨s, hspells, hgains, hyields⟩ |
        ⟨before, -, -, s, e, points, -, hspells, hgains, -, hextends, -, -, hyields⟩
    · exact ⟨_, s, s.points, fun relation _ => hspells relation, hgains, Extends.refl _,
        hyields.start.2⟩
    · exact ⟨before, s, points, hspells, hgains, hextends, hyields.start.2⟩
  · obtain ⟨e, hyields⟩ := load_elsewhere hdirectory store
    exact ⟨[], store, store.points, by simp, Gains.refl _ _, Extends.refl _, hyields.start.2⟩

theorem load_extends :
    store.points.Extends ((load files directory).start store).2.state.points := by
  obtain ⟨before, s, points, -, hgains, hextends, hstate⟩ := load_leaves files directory store
  rw [hstate]
  exact hgains.points.toExtends.trans hextends

variable {store}

theorem IsResolved.load (h : store.IsResolved) :
    ((load files directory).start store).2.state.IsResolved := by
  obtain ⟨before, s, points, hspells, hgains, hextends, hstate⟩ := load_leaves files directory store
  have hs : s.IsResolved := h.gains hgains fun relation hrelation cells hcells =>
    (hspells relation hrelation).map_column hcells
  rw [hstate]
  exact hs.mono hextends.appended

variable (store)

/-- A relation has what it had, and one row for each tuple that a directory records. -/
def HasGained (relation : Relation) (store' : FactStore) : Prop :=
  ∃ tuples rows, Records files directory relation tuples ∧
    List.Forall₂ (IsRow store'.points) tuples rows ∧
    ∀ row, row ∈ store'.facts.rows relation ↔ row ∈ store.facts.rows relation ∨ row ∈ rows

/-- A call fails while a relation is read: those before it have been read, and this one cannot
be. -/
structure FailsAt (before : List Relation) (relation : Relation) (later : List Relation)
    (e : Failure) : Prop where
  order : Relation.all = before ++ relation :: later
  read : ((loadRelations files directory before).start store).1 = .ok ()
  fails : ((loadRelation files directory relation).start
    ((loadRelations files directory before).start store).2.state).1 = .error e

variable {files directory store}

theorem Gains.hasGained {relations : List Relation} {s : FactStore}
    (h : store.Gains relations (tuplesIn files directory) s) {relation : Relation}
    (hrelation : relation ∈ relations)
    (hspells : Spells files directory relation (tuplesIn files directory relation))
    {points : PointTable} (hpoints : s.points.points <+: points.points) :
    HasGained files directory store relation { s with points := points } := by
  refine ⟨_, (tuplesIn files directory relation).map (rowOf s.points),
    spells_iff_records.mp hspells, ?_, fun row => ?_⟩
  · rw [List.forall₂_map_right_iff, List.forall₂_same]
    intro cells hcells
    have hmem : ∀ p ∈ pointsOf cells, p ∈ s.points.points := fun p hp =>
      h.mem_points hrelation hcells hp
    -- Points that came later have changed no number.
    rw [← rowOf_of_prefix hpoints hmem]
    exact isRow_rowOf fun p hp => hpoints.subset (hmem p hp)
  · rw [h.mem_rows, List.mem_map, and_iff_right hrelation]

/-- A call that succeeds adds to every relation. -/
theorem load_gained (h : ((load files directory).start store).1 = .ok ()) (relation : Relation) :
    HasGained files directory store relation ((load files directory).start store).2.state := by
  by_cases hdirectory : files.isDirectory directory = .ok true
  · rcases load_cases hdirectory store with
      ⟨s, hspells, hgains, hyields⟩ | ⟨-, -, -, s, e, points, -, -, -, -, -, -, -, hyields⟩
    · rw [hyields.start.2]
      exact hgains.hasGained (mem_all relation) (hspells relation) (List.prefix_refl _)
    · cases hyields.start.1.symm.trans h
  · obtain ⟨e, hyields⟩ := load_elsewhere hdirectory store
    cases hyields.start.1.symm.trans h

/-- A call that fails adds to the relations before the one that it fails at, and to no other. -/
theorem load_stopped {e : Failure} (h : ((load files directory).start store).1 = .error e) :
    (files.isDirectory directory ≠ .ok true ∧
      ((load files directory).start store).2.state = store) ∨
    ∃ before relation later, FailsAt files directory store before relation later e ∧
      (∀ r ∈ before,
        HasGained files directory store r ((load files directory).start store).2.state) ∧
      ∀ r ∈ relation :: later,
        ((load files directory).start store).2.state.facts.rows r = store.facts.rows r := by
  by_cases hdirectory : files.isDirectory directory = .ok true
  · rcases load_cases hdirectory store with
      ⟨s, -, -, hyields⟩ | ⟨before, relation, later, s, e', points, horder, hspells, hgains, hread,
        hextends, -, hfails, hyields⟩
    · cases hyields.start.1.symm.trans h
    · obtain rfl : e' = e := Except.error.inj (hyields.start.1.symm.trans h)
      -- No relation comes twice, so none of those that follow is among those that were read.
      have hnodup : (before ++ relation :: later).Nodup := by
        rw [← horder]
        decide
      refine .inr ⟨before, relation, later, ⟨horder, hread.start.1, ?_⟩, ?_, ?_⟩
      · rw [hread.start.2]
        exact hfails.start.1
      · intro r hr
        rw [hyields.start.2]
        exact hgains.hasGained hr (hspells r hr) hextends.appended
      · intro r hr
        rw [hyields.start.2]
        exact hgains.kept r fun hmem => List.disjoint_of_nodup_append hnodup hmem hr
  · obtain ⟨e', hyields⟩ := load_elsewhere hdirectory store
    exact .inl ⟨hdirectory, hyields.start.2⟩

end Call

/-! ### Sequences of calls -/

/-- The stores that are reached from one without facts, with whatever points its table has.
Between the calls the table is used by others. -/
inductive Reached : FactStore → Prop where
  | fresh (points : PointTable) : Reached { points := points }
  | call {store : FactStore} (h : Reached store) (files : FileTree) (directory : Path) :
      Reached ((load files directory).start store).2.state
  | operation {store : FactStore} (h : Reached store) (op : PointRegister.Operation) :
      Reached { store with points := store.points.used op }

theorem Reached.isResolved {store : FactStore} (h : Reached store) : store.IsResolved := by
  induction h with
  | fresh points =>
    intro relation row hrow
    rw [rows_empty] at hrow
    cases hrow
  | call _ files directory ih => exact ih.load files directory
  | operation _ op ih => exact ih.mono (PointRegister.prefix_perform _ op)

/-- **Stores stay consistent.**  In every store that is reached the points of all rows are
resolved.  Whatever a call does next, numbers keep their points, and points are only appended,
and not even this once the table is frozen.  If the call succeeds, every relation has gained
what the directory records for it.  If it fails, either there was no directory and nothing has
changed, or the relations before the one that it fails at have gained theirs, and this one and
those after it have exactly the rows that they had. -/
theorem Reached.load_consistent {store : FactStore} (h : Reached store) :
    store.IsResolved ∧
    ∀ files directory store', ((load files directory).start store).2.state = store' →
      (∀ i p, store.points.resolve i = .ok p → store'.points.resolve i = .ok p) ∧
      store.points.Extends store'.points ∧
      (((load files directory).start store).1 = .ok () →
        ∀ relation, HasGained files directory store relation store') ∧
      ∀ e, ((load files directory).start store).1 = .error e →
        (files.isDirectory directory ≠ .ok true ∧ store' = store) ∨
        ∃ before relation later, FailsAt files directory store before relation later e ∧
          (∀ r ∈ before, HasGained files directory store r store') ∧
          ∀ r ∈ relation :: later, store'.facts.rows r = store.facts.rows r := by
  refine ⟨h.isResolved, ?_⟩
  rintro files directory _ rfl
  have hextends := load_extends files directory store
  refine ⟨fun i p hp => PointRegister.resolve_of_prefix hextends.appended hp, hextends, load_gained,
    ?_⟩
  intro e herror
  exact load_stopped herror

/-- A directory with a line of two fields where three are expected. -/
def brokenFiles : FileTree :=
  ⟨[(⟨.working, ["facts"]⟩, .directory),
    (⟨.working, ["facts", "borrow_region.facts"]⟩, .file (Utf8.encode "'_#2r\tbw0\tMid(bb0[0])\n")),
    (⟨.working, ["facts", "outlives.facts"]⟩, .file (Utf8.encode
      "'_#1r\t'_#2r\tMid(bb0[1])\n'_#1r\t'_#2r\n")),
    (⟨.working, ["facts", "region_live_at.facts"]⟩, .file (Utf8.encode "'_#2r\tMid(bb0[2])\n"))]⟩

/-- What is left of this directory, with a point that is in no row, when the table has been
frozen. -/
def brokenStore : FactStore where
  points := (PointTable.ofPoints [⟨⟨0, 0⟩, .mid⟩, ⟨⟨0, 1⟩, .mid⟩]).freeze
  facts := { borrowRegion := [(2, 0, 0)] }

theorem reached_brokenStore : Reached brokenStore := by
  have hreached := ((Reached.fresh .empty).call brokenFiles (.ofText "facts")).operation .freeze
  have hstate : ((load brokenFiles (.ofText "facts")).start {}).2.state =
      { brokenStore with points := .ofPoints [⟨⟨0, 0⟩, .mid⟩, ⟨⟨0, 1⟩, .mid⟩] } := by
    decide +kernel
  rw [hstate] at hreached
  exact hreached

theorem brokenStore_load_consistent :
    Reached brokenStore ∧ brokenStore.IsResolved ∧
      ∃ e, ((load brokenFiles (.ofText "facts")).start brokenStore).1 = .error e ∧
        ∃ before relation later,
          FailsAt brokenFiles (.ofText "facts") brokenStore before relation later e ∧
          (∀ r ∈ before, HasGained brokenFiles (.ofText "facts") brokenStore r
            ((load brokenFiles (.ofText "facts")).start brokenStore).2.state) ∧
          ∀ r ∈ relation :: later,
            ((load brokenFiles (.ofText "facts")).start brokenStore).2.state.facts.rows r =
              brokenStore.facts.rows r := by
  obtain ⟨hresolved, hcalls⟩ := reached_brokenStore.load_consistent
  have hfails : ((load brokenFiles (.ofText "facts")).start brokenStore).1.isOk = false := by
    decide +kernel
  obtain ⟨-, -, -, herror⟩ := hcalls brokenFiles (.ofText "facts") _ rfl
  rcases hload : ((load brokenFiles (.ofText "facts")).start brokenStore).1 with e | _
  · have hdirectory : brokenFiles.isDirectory (.ofText "facts") = .ok true := by decide +kernel
    rcases herror e hload with ⟨hmissing, -⟩ | hstopped
    · exact absurd hdirectory hmissing
    · exact ⟨reached_brokenStore, hresolved, e, rfl, hstopped⟩
  · rw [hload] at hfails
    cases hfails

end FactStore
end BorrowGraph
