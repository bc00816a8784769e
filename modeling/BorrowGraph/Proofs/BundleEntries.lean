/-
Functions written as entries of a bundle, and read back.

An entry is a table with the name of a function, its path, its declared locals, its blocks and,
where they are known, its initialized places.  One function has many entries: the fields of a
table stand in any order, a field that holds its default may be left out, and a local as a
whole may be spelled or be given by its number.  Every entry for a function is read as that
function.

* `HasField`, `IsOptional`, `IsListOf`, `IsTable`: the parts of which entries are made;
* `Place.IsWritten`, `Statement.IsWrittenIn`, …, `Function.IsWritten`: which value is written
  for what;
* `Local.read_of_isNumeral`, `Location.read_of_isSpelling`, `Value.toInteger_of_isNumeral`:
  spelled numbers;
* `Place.read_eq`, `Statement.read_eq`, …, `Function.body_read_eq`: each part is read as what
  it was written for;
* `Function.entry`: one entry for each function;
* `Function.entries_readBack`: all entries are read back.
-/
import BorrowGraph.Proofs.BodyLocations
import BorrowGraph.Proofs.ListingFormat
import BorrowGraph.Proofs.ReportCells

namespace BorrowGraph

open Spelling

/-! ### Fields -/

/-- A table has a field in one of the given forms, or the field is left out, where it holds its
default. -/
def HasField (fields : List (String × Value)) (name : String) (forms : Value → Prop)
    (isDefault : Prop) : Prop :=
  (∃ w, Assoc.get? name fields = some w ∧ forms w) ∨ Assoc.get? name fields = none ∧ isDefault

/-- Something that may be missing, which is null then. -/
def IsOptional {α : Type} (forms : α → Value → Prop) : Option α → Value → Prop
  | none, w => w = .null
  | some a, w => forms a w

/-- A list, item by item. -/
def IsListOf {α : Type} (forms : α → Value → Prop) (xs : List α) (w : Value) : Prop :=
  ∃ items, w = .list items ∧ List.Forall₂ forms xs items

/-- A table with certain fields. -/
def IsTable {α : Type} (forms : α → List (String × Value) → Prop) (a : α) (w : Value) : Prop :=
  ∃ fields, w = .table fields ∧ forms a fields

def IsText (s : String) (w : Value) : Prop :=
  w = .text s

def IsNumber (n : Int) (w : Value) : Prop :=
  w = .int n

/-! ### Entries -/

/-- The values that stand for a place: a spelled local, or a table with its base and its
projection. -/
inductive Place.IsWritten : Place → Value → Prop where
  | spelled {n : Local} {run : List Char} (hrun : IsNumeral run n) :
      IsWritten ⟨n, []⟩ (.text (String.ofList ('_' :: run)))
  | table {p : Place} {fields : List (String × Value)}
      (hbase : Assoc.get? "local" fields = some (.int p.base))
      (hprojection :
        HasField fields "projection" (IsListOf IsText p.projection) (p.projection = [])) :
      IsWritten p (.table fields)

structure Statement.IsWrittenIn (st : Statement) (fields : List (String × Value)) : Prop where
  kind : Assoc.get? "kind" fields = some (.text st.kind.text)
  text : HasField fields "text" (IsText st.text) (st.text = "")
  place : HasField fields "place" (IsOptional Place.IsWritten st.place) (st.place = none)

structure Terminator.IsWrittenIn (t : Terminator) (fields : List (String × Value)) : Prop where
  kind : Assoc.get? "kind" fields = some (.text t.kind.text)
  text : HasField fields "text" (IsText t.text) (t.text = "")
  targets : HasField fields "targets" (IsListOf IsNumber t.targets) (t.targets = [])
  unwind : HasField fields "unwind" (IsOptional IsNumber t.unwind) (t.unwind = none)
  imaginary : HasField fields "imaginary_targets" (IsListOf IsNumber t.imaginaryTargets)
    (t.imaginaryTargets = [])
  destination : HasField fields "destination" (IsOptional Place.IsWritten t.destination)
    (t.destination = none)
  func : HasField fields "func" (· = t.func) (t.func = .null)

/-- The number of a block is not written; it is its position. -/
structure Block.IsWrittenIn (b : Block) (fields : List (String × Value)) : Prop where
  statements : HasField fields "statements" (IsListOf (IsTable Statement.IsWrittenIn) b.statements)
    (b.statements = [])
  terminator :
    HasField fields "terminator" (IsOptional (IsTable Terminator.IsWrittenIn) b.terminator)
    (b.terminator = none)

/-- The number of a local is not written; it is its position. -/
structure LocalDecl.IsWrittenIn (d : LocalDecl) (fields : List (String × Value)) : Prop where
  type : HasField fields "ty" (IsText d.type) (d.type = "")
  name : HasField fields "name" (· = d.name) (d.name = .null)

namespace Initialization

/-- The spellings of a block. -/
def IsBlockSpelling (block : Int) (s : String) : Prop :=
  IsNumeral s.toList block

/-- The spellings of a location. -/
def IsLocationSpelling (l : Location) (s : String) : Prop :=
  ∃ block index, IsNumeral block l.block ∧ IsNumeral index l.index ∧
    s.toList = "bb".toList ++ block ++ "[".toList ++ index ++ "]".toList

/-- A row of a table: a spelled key and the list of its places. -/
def IsRow {κ : Type} (isKey : κ → String → Prop) (row : κ × List String) (field : String × Value) :
    Prop :=
  isKey row.1 field.1 ∧ field.2 = .list (row.2.map .text)

structure IsWrittenIn (i : Initialization) (fields : List (String × Value)) : Prop where
  before : HasField fields "before_block" (IsTable (List.Forall₂ (IsRow IsBlockSpelling)) i.before)
    (i.before = [])
  after :
    HasField fields "after_statement" (IsTable (List.Forall₂ (IsRow IsLocationSpelling)) i.after)
    (i.after = [])

/-- The tables have each key once, with a set of places, and the keys can be spelled. -/
structure IsRegular (i : Initialization) : Prop where
  before_keys : (i.before.map Prod.fst).Nodup
  after_keys : (i.after.map Prod.fst).Nodup
  before_places : ∀ row ∈ i.before, row.2.Nodup
  after_places : ∀ row ∈ i.after, row.2.Nodup
  before_spelled : ∀ row ∈ i.before, 0 ≤ row.1 ∧ Decimal.fits row.1 = true
  after_spelled : ∀ row ∈ i.after, (0 ≤ row.1.block ∧ Decimal.fits row.1.block = true) ∧
    0 ≤ row.1.index ∧ Decimal.fits row.1.index = true

end Initialization

/-- The locals of a body are numbered by their positions. -/
def Body.HasNumberedLocals (b : Body) : Prop :=
  ∀ (i : Nat) (d : LocalDecl), b.locals[i]? = some d → d.index = i

namespace Function

structure IsWrittenIn (f : Function) (fields : List (String × Value)) : Prop where
  name : Assoc.get? "name" fields = some (.text f.name)
  path : HasField fields "def_path" (IsText f.path) (f.path = f.name)
  locals : HasField fields "local_decls" (IsListOf (IsTable LocalDecl.IsWrittenIn) f.body.locals)
    (f.body.locals = [])
  blocks : HasField fields "basic_blocks" (IsListOf (IsTable Block.IsWrittenIn) f.body.blocks)
    (f.body.blocks = [])
  initialization : HasField fields "initialization"
    (IsOptional (IsTable Initialization.IsWrittenIn) f.initialization) (f.initialization = none)

/-- The entries of a function. -/
def IsWritten : Function → Value → Prop :=
  IsTable IsWrittenIn

/-- Locals and blocks are numbered by their positions, and the tables of initialized places are
regular. -/
structure IsRegular (f : Function) : Prop where
  locals : f.body.HasNumberedLocals
  blocks : f.body.IsNumbered
  initialization : ∀ i ∈ f.initialization, i.IsRegular

end Function

/-! ### Reading fields -/

namespace HasField

variable {α : Type} {fields : List (String × Value)} {name : String}

theorem textOf {s : String} (h : HasField fields name (IsText s) (s = "")) :
    (Value.table fields).textOf name = .ok s := by
  rcases h with ⟨w, hw, rfl⟩ | ⟨hnone, rfl⟩
  · rw [Value.textOf, Value.field?, Value.fields, ok_bind, hw]
    rfl
  · rw [Value.textOf, Value.field?, Value.fields, ok_bind, hnone]
    rfl

/-- A field that is kept as it is. -/
theorem kept {v : Value} (h : HasField fields name (· = v) (v = .null)) :
    (Value.table fields).field? name = .ok (Assoc.get? name fields) ∧
      (Assoc.get? name fields).getD .null = v := by
  refine ⟨rfl, ?_⟩
  rcases h with ⟨w, hw, rfl⟩ | ⟨hnone, rfl⟩
  · rw [hw]
    rfl
  · rw [hnone]
    rfl

theorem elementsOf {forms : α → Value → Prop} {xs : List α}
    (h : HasField fields name (IsListOf forms xs) (xs = [])) :
    ∃ items, (Value.table fields).elementsOf name = .ok items ∧ List.Forall₂ forms xs items := by
  rcases h with ⟨w, hw, items, rfl, hitems⟩ | ⟨hnone, rfl⟩
  · refine ⟨items, ?_, hitems⟩
    rw [Value.elementsOf, Value.field?, Value.fields, ok_bind, hw]
    rfl
  · refine ⟨[], ?_, .nil⟩
    rw [Value.elementsOf, Value.field?, Value.fields, ok_bind, hnone]
    rfl

/-- A list is read item by item. -/
theorem mapM_elementsOf {forms : α → Value → Prop} {xs : List α}
    (h : HasField fields name (IsListOf forms xs) (xs = [])) {read : Value → Except Fault α}
    (hread : ∀ a w, forms a w → read w = .ok a) :
    ((Value.table fields).elementsOf name >>= List.mapM read) = .ok xs := by
  obtain ⟨items, helements, hitems⟩ := h.elementsOf
  rw [helements, ok_bind, mapM_eq_ok]
  exact (hitems.imp fun a w => hread a w).flip

/-- What may be missing is read if it is there; nothing that is there is written as null. -/
theorem mapM_present? {forms : α → Value → Prop} {o : Option α}
    (h : HasField fields name (IsOptional forms o) (o = none)) {read : Value → Except Fault α}
    (hread : ∀ a ∈ o, ∀ w, forms a w → w ≠ .null ∧ read w = .ok a) :
    ((Value.table fields).present? name >>= Option.mapM read) = .ok o := by
  have hfield : (Value.table fields).field? name = .ok (Assoc.get? name fields) := rfl
  rw [Value.present?, hfield, ok_bind]
  rcases h with ⟨w, hw, hforms⟩ | ⟨hnone, rfl⟩
  · rw [hw]
    cases o with
    | none =>
      obtain rfl : w = .null := hforms
      rfl
    | some a =>
      obtain ⟨hne, hok⟩ := hread a rfl w hforms
      have hmapM : Option.mapM read (some w) = .ok (some a) := by
        rw [Option.mapM_some, hok]
        rfl
      rw [← hmapM]
      -- The value is there and is not null, so that it is the third case that is met.
      split
      · rename_i hnull
        cases hnull
      · rename_i hnull
        exact absurd (Option.some_inj.mp hnull) hne
      · rename_i hnull
        rw [Option.some_inj.mp hnull]
        rfl
  · rw [hnone]
    rfl

end HasField

/-! ### Spelled numbers -/

/-- No script has a digit among the blanks. -/
theorem isBlank_of_isDigit {c : Char} (h : Text.isDigit c = true) : Text.isBlank c = false := by
  have hzeros : Text.digitZeros.all (fun z => Listing.isFreeOfBlanks (z, z + 9)) = true := by
    decide +kernel
  obtain ⟨d, hd⟩ := Option.isSome_iff_exists.mp h
  -- The digits of a script are a row of ten, and no row meets the blanks.
  obtain ⟨z, hz, -⟩ := Option.map_eq_some_iff.mp hd
  have hrange := List.find?_some hz
  have hfree := List.all_eq_true.mp hzeros z (List.mem_of_find?_eq_some hz)
  rw [Bool.eq_false_iff]
  intro hblank
  simp only [Text.isBlank, Bool.or_eq_true, Bool.and_eq_true, decide_eq_true_eq,
    beq_iff_eq] at hblank hrange
  simp only [Listing.isFreeOfBlanks, List.all_cons, List.all_nil, Bool.and_eq_true, Bool.or_eq_true,
    decide_eq_true_eq] at hfree
  omega

theorem isMargin_of_isDigit {c : Char} (h : Text.isDigit c = true) :
    Decimal.isMargin c = false := by
  have hblank := isBlank_of_isDigit h
  rw [Bool.eq_false_iff] at hblank ⊢
  intro hmargin
  refine hblank ?_
  simp only [Decimal.isMargin, Text.isAsciiBlank, Text.isBlank, Bool.or_eq_true, Bool.and_eq_true,
    decide_eq_true_eq, beq_iff_eq] at hmargin ⊢
  omega

/-- A text without characters to be dropped is left as it is. -/
theorem trimBy_eq_self {p : Char → Bool} {cs : List Char} (h : ∀ c ∈ cs, p c = false) :
    Text.trimBy p cs = cs := by
  have hdrop : ∀ ds : List Char, (∀ c ∈ ds, p c = false) → ds.dropWhile p = ds := fun ds hds =>
    Text.dropWhile_of_head fun c hc => hds c (List.mem_of_mem_head? hc)
  rw [Text.trimBy, hdrop cs h, hdrop cs.reverse (by simpa using h), List.reverse_reverse]

/-- A run of digits is all there is, whichever digit stood before it. -/
theorem digitRun_of_isDigit {run : List Char} (hrun : ∀ c ∈ run, Text.isDigit c = true)
    {last : Char}
    (hlast : last ≠ '_' ∨ run ≠ []) : Decimal.digitRun last run = some (run, []) := by
  induction run generalizing last with
  | nil =>
    rw [Decimal.digitRun, if_neg (hlast.resolve_right (by simp))]
  | cons c run ih =>
    rw [List.forall_mem_cons] at hrun
    have hc : c ≠ '_' := by
      rintro rfl
      exact absurd hrun.1 (by decide)
    rw [Decimal.digitRun, if_neg hc, if_pos hrun.1, ih hrun.2 (.inl hc)]
    rfl

namespace Value

/-- A numeral on its own is read as the number it stands for. -/
theorem toInteger_of_isNumeral {s : String} {n : Int} (h : IsNumeral s.toList n) :
    (Value.text s).toInteger = .ok n := by
  obtain ⟨hne, hdigits, hnumber⟩ := isNumeral_iff.mp h
  obtain ⟨hlength, rfl⟩ := number_eq_ok_iff.mp hnumber
  have hunsigned : Decimal.readUnsigned s.toList = .ok (Text.digitsValue s.toList) := by
    have hlimit : s.toList.length ≤ Decimal.digitLimit := hlength
    rw [Decimal.readUnsigned, digitRun_of_isDigit hdigits (.inr hne)]
    simp only [Decimal.readDigits, if_pos hlimit]
    rfl
  have hsign : ∀ c ∈ s.toList.head?, c ≠ '-' ∧ c ≠ '+' := by
    intro c hc
    have hdigit := hdigits c (List.mem_of_mem_head? hc)
    constructor
    · rintro rfl
      exact absurd hdigit (by decide)
    · rintro rfl
      exact absurd hdigit (by decide)
  have hinteger : Decimal.readInteger s.toList = .ok (Text.digitsValue s.toList : Int) := by
    rw [Decimal.readInteger, trimBy_eq_self fun c hc => isMargin_of_isDigit (hdigits c hc)]
    split
    · rename_i ds hds
      exact absurd rfl (hsign '-' (by rw [hds]; rfl)).1
    · rename_i ds hds
      exact absurd rfl (hsign '+' (by rw [hds]; rfl)).2
    · rw [hunsigned]
      rfl
  rw [toInteger, hinteger]
  rfl

end Value

/-- A spelled local is read as the local it stands for. -/
theorem Local.read_of_isNumeral {n : Local} {run : List Char} (h : IsNumeral run n) :
    Local.read (String.ofList ('_' :: run)) = .ok n := by
  obtain ⟨-, hdigits, -⟩ := isNumeral_iff.mp h
  refine Local.read_eq_ok_iff_isLine.mpr ⟨'_' :: run, ⟨run, h, rfl⟩, .inl ?_⟩
  rw [String.toList_ofList]
  refine trimBy_eq_self ?_
  rw [List.forall_mem_cons]
  exact ⟨by decide, fun c hc => isBlank_of_isDigit (hdigits c hc)⟩

theorem isBlank_of_all {cs : List Char} (h : (cs.all fun c => !Text.isBlank c) = true) :
    ∀ c ∈ cs, Text.isBlank c = false := fun c hc => by
  simpa using List.all_eq_true.mp h c hc

/-- A spelled location is read as the location it stands for. -/
theorem Location.read_of_isSpelling {l : Location} {s : String}
    (h : Initialization.IsLocationSpelling l s) : Location.read s = .ok l := by
  refine Location.read_eq_ok_iff_isLine.mpr ⟨s.toList, h, .inl (trimBy_eq_self ?_)⟩
  obtain ⟨block, index, hblock, hindex, hs⟩ := h
  obtain ⟨-, hblockdigits, -⟩ := isNumeral_iff.mp hblock
  obtain ⟨-, hindexdigits, -⟩ := isNumeral_iff.mp hindex
  rw [hs]
  simp only [List.forall_mem_append]
  exact ⟨⟨⟨⟨isBlank_of_all (by decide), fun c hc => isBlank_of_isDigit (hblockdigits c hc)⟩,
    isBlank_of_all (by decide)⟩, fun c hc => isBlank_of_isDigit (hindexdigits c hc)⟩,
    isBlank_of_all (by decide)⟩

/-! ### Reading entries -/

theorem Value.require_eq {fields : List (String × Value)} {name : String} {w : Value}
    (h : Assoc.get? name fields = some w) : (Value.table fields).require name = .ok w := by
  rw [Value.require, h]

theorem IsTable.ne_null {α : Type} {forms : α → List (String × Value) → Prop} {a : α} {w : Value}
    (h : IsTable forms a w) : w ≠ .null := by
  obtain ⟨_, rfl, -⟩ := h
  simp

theorem readMember_eq {α : Type} {ofText? : String → Option α} {noun s : String} {a : α}
    (h : ofText? s = some a) : readMember ofText? noun (.text s) = .ok a := by
  rw [readMember, h]

theorem Statement.Kind.ofText?_text (k : Statement.Kind) : ofText? k.text = some k := by
  cases k <;> decide

theorem Terminator.Kind.ofText?_text (k : Terminator.Kind) : ofText? k.text = some k := by
  cases k <;> decide

/-- The plain text of a text is itself. -/
theorem map_plain_eq {texts : List String} {items : List Value}
    (h : List.Forall₂ IsText texts items) :
    items.map Value.plain = texts := by
  induction h with
  | nil => rfl
  | cons htext _ ih =>
    obtain rfl := htext
    rw [List.map_cons, ih, Value.plain]

namespace Place

theorem read_eq {p : Place} {v : Value} (h : p.IsWritten v) : Place.read v = .ok p := by
  cases h with
  | spelled hrun => exact bind_eq_ok.mpr ⟨_, Local.read_of_isNumeral hrun, rfl⟩
  | table hbase hprojection =>
    obtain ⟨items, helements, hitems⟩ := hprojection.elementsOf
    refine bind_eq_ok.mpr ⟨_, Value.require_eq hbase, bind_eq_ok.mpr ⟨p.base, rfl, ?_⟩⟩
    refine bind_eq_ok.mpr ⟨_, helements, ?_⟩
    rw [map_plain_eq hitems]
    rfl

theorem ne_null {p : Place} {v : Value} (h : p.IsWritten v) : v ≠ .null := by
  cases h <;> simp

theorem readField_eq {o : Option Place} {fields : List (String × Value)} {name : String}
    (h : HasField fields name (IsOptional IsWritten o) (o = none)) :
    Place.readField (.table fields) name = .ok o := by
  rw [← h.mapM_present? fun p _ w hw => ⟨ne_null hw, read_eq hw⟩, readField]
  rcases (Value.table fields).present? name with e | _ | w
  · rfl
  · rfl
  · rw [ok_bind, ok_bind, Option.mapM_some]
    rfl

end Place

theorem Statement.read_eq {st : Statement} {v : Value} (h : IsTable Statement.IsWrittenIn st v) :
    Statement.read v = .ok st := by
  obtain ⟨fields, rfl, h⟩ := h
  refine bind_eq_ok.mpr ⟨_, Value.require_eq h.kind, bind_eq_ok.mpr ⟨st.kind, ?_, ?_⟩⟩
  · exact readMember_eq (Statement.Kind.ofText?_text _)
  · refine bind_eq_ok.mpr ⟨st.place, Place.readField_eq h.place, ?_⟩
    exact bind_eq_ok.mpr ⟨st.text, h.text.textOf, rfl⟩

theorem readTargets_eq {targets : List Int} {fields : List (String × Value)} {name : String}
    (h : HasField fields name (IsListOf IsNumber targets) (targets = [])) :
    readTargets (.table fields) name = .ok targets :=
  h.mapM_elementsOf fun n w hw => by
    obtain rfl : w = .int n := hw
    rfl

theorem Terminator.read_eq {t : Terminator} {v : Value} (h : IsTable Terminator.IsWrittenIn t v) :
    Terminator.read v = .ok t := by
  obtain ⟨fields, rfl, h⟩ := h
  have hunwind : ((Value.table fields).present? "unwind" >>= Option.mapM Value.toInteger) =
      .ok t.unwind :=
    h.unwind.mapM_present? fun n _ w hw => by
      obtain rfl : w = .int n := hw
      exact ⟨by simp, rfl⟩
  obtain ⟨unwind, hpresent, hunwind⟩ := bind_eq_ok.mp hunwind
  refine bind_eq_ok.mpr ⟨_, Value.require_eq h.kind, bind_eq_ok.mpr ⟨t.kind, ?_, ?_⟩⟩
  · exact readMember_eq (Terminator.Kind.ofText?_text _)
  refine bind_eq_ok.mpr
    ⟨t.text, h.text.textOf, bind_eq_ok.mpr ⟨t.targets, readTargets_eq h.targets, ?_⟩⟩
  refine bind_eq_ok.mpr ⟨unwind, hpresent, bind_eq_ok.mpr ⟨t.unwind, hunwind, ?_⟩⟩
  refine bind_eq_ok.mpr ⟨t.imaginaryTargets, readTargets_eq h.imaginary, ?_⟩
  refine bind_eq_ok.mpr ⟨t.destination, Place.readField_eq h.destination, ?_⟩
  refine bind_eq_ok.mpr ⟨_, h.func.kept.1, ?_⟩
  rw [h.func.kept.2]
  rfl

theorem LocalDecl.read_eq {d : LocalDecl} {v : Value} (h : IsTable LocalDecl.IsWrittenIn d v)
    {n : Nat}
    (hn : d.index = n) : LocalDecl.read n v = .ok d := by
  obtain ⟨fields, rfl, h⟩ := h
  refine bind_eq_ok.mpr ⟨d.type, h.type.textOf, bind_eq_ok.mpr ⟨_, h.name.kept.1, ?_⟩⟩
  rw [h.name.kept.2, ← hn]
  rfl

theorem Block.read_eq {b : Block} {v : Value} (h : IsTable Block.IsWrittenIn b v) {n : Nat}
    (hn : b.index = n) : Block.read n v = .ok b := by
  obtain ⟨fields, rfl, h⟩ := h
  obtain ⟨items, helements, hstatements⟩ :=
    bind_eq_ok.mp (h.statements.mapM_elementsOf fun _ _ hw => Statement.read_eq hw)
  have hterminator : ((Value.table fields).present? "terminator" >>= Option.mapM Terminator.read) =
      .ok b.terminator :=
    h.terminator.mapM_present? fun t _ w hw => ⟨hw.ne_null, Terminator.read_eq hw⟩
  obtain ⟨terminator, hpresent, hterminator⟩ := bind_eq_ok.mp hterminator
  refine bind_eq_ok.mpr ⟨items, helements, bind_eq_ok.mpr ⟨b.statements, hstatements, ?_⟩⟩
  refine bind_eq_ok.mpr ⟨terminator, hpresent, bind_eq_ok.mpr ⟨b.terminator, hterminator, ?_⟩⟩
  rw [← hn]
  rfl

/-- Items that are numbered by their positions are read one after the other. -/
theorem readIndexed_eq {α : Type} {index : α → Int} {read : Nat → Value → Except Fault α}
    {forms : α → Value → Prop} (hread : ∀ a w (n : Nat), forms a w → index a = n → read n w = .ok a)
    {xs : List α} {items : List Value} (hitems : List.Forall₂ forms xs items) {start : Nat}
    (hindex : ∀ (i : Nat) (a : α), xs[i]? = some a → index a = ((start + i : Nat) : Int)) :
    readIndexed read start items = .ok xs := by
  induction hitems generalizing start with
  | nil => rfl
  | cons ha _ ih =>
    refine bind_eq_ok.mpr ⟨_, hread _ _ start ha (hindex 0 _ rfl), bind_eq_ok.mpr ⟨_, ih ?_, rfl⟩⟩
    intro i a hi
    rw [hindex (i + 1) a hi, Nat.add_right_comm, Nat.add_assoc]

namespace Initialization

theorem eraseDups_of_nodup {xs : List String} (h : xs.Nodup) : xs.eraseDups = xs := by
  induction xs with
  | nil => rfl
  | cons x xs ih =>
    rw [List.nodup_cons] at h
    have hfilter : xs.filter (fun y => !y == x) = xs := by
      refine List.filter_eq_self.mpr fun y hy => ?_
      have hne : y ≠ x := by
        rintro rfl
        exact h.1 hy
      simpa using hne
    rw [List.eraseDups_cons, hfilter, ih h.2]

theorem readPlaces_eq {places : List String} (h : places.Nodup) :
    readPlaces (.list (places.map .text)) = .ok places := by
  have hplain : (places.map Value.text).map Value.plain = places :=
    map_plain_eq (List.forall₂_map_right_iff.mpr (List.forall₂_same.mpr fun _ _ => rfl))
  refine bind_eq_ok.mpr ⟨places.map .text, rfl, ?_⟩
  rw [hplain, eraseDups_of_nodup h]
  rfl

/-- Rows with different keys are read as they were written. -/
theorem readRows_eq {κ : Type} [DecidableEq κ] {isKey : κ → String → Prop}
    {readKey : String → Except Fault κ} (hkey : ∀ key s, isKey key s → readKey s = .ok key)
    {rows : List (κ × List String)} (hkeys : (rows.map Prod.fst).Nodup)
    (hplaces : ∀ row ∈ rows, row.2.Nodup) {fields : List (String × Value)}
    (h : List.Forall₂ (IsRow isKey) rows fields) : readRows readKey fields = .ok rows := by
  refine bind_eq_ok.mpr ⟨rows, mapM_eq_ok.mpr ?_, ?_⟩
  · induction h with
    | nil => exact .nil
    | @cons row field rows fields hrow _ ih =>
      rw [List.map_cons, List.nodup_cons] at hkeys
      rw [List.forall_mem_cons] at hplaces
      obtain ⟨s, v⟩ := field
      obtain ⟨hs, rfl⟩ := hrow
      refine .cons ?_ (ih hkeys.2 hplaces.2)
      exact bind_eq_ok.mpr
        ⟨row.1, hkey _ _ hs, bind_eq_ok.mpr ⟨row.2, readPlaces_eq hplaces.1, rfl⟩⟩
  · have hput : Assoc.ofPairs rows = rows := Assoc.foldl_put (by simpa using hkeys)
    rw [hput]
    rfl

theorem rowsOf_eq {α : Type} {forms : List α → List (String × Value) → Prop} {rows : List α}
    {fields : List (String × Value)} {name : String}
    (h : HasField fields name (IsTable forms rows) (rows = [])) (hnil : forms [] []) :
    ∃ found, rowsOf (.table fields) name = .ok found ∧ forms rows found := by
  rcases h with ⟨w, hw, found, rfl, hfound⟩ | ⟨hnone, rfl⟩
  · refine ⟨found, ?_, hfound⟩
    rw [rowsOf, Value.field?, Value.fields, ok_bind, hw]
    rfl
  · refine ⟨[], ?_, hnil⟩
    rw [rowsOf, Value.field?, Value.fields, ok_bind, hnone]
    rfl

theorem read_eq {i : Initialization} (hi : i.IsRegular) {v : Value} (h : IsTable IsWrittenIn i v) :
    Initialization.read v = .ok i := by
  obtain ⟨fields, rfl, h⟩ := h
  obtain ⟨before, hbefore, hbeforeRows⟩ := rowsOf_eq h.before .nil
  obtain ⟨after, hafter, hafterRows⟩ := rowsOf_eq h.after .nil
  refine bind_eq_ok.mpr ⟨before, hbefore, bind_eq_ok.mpr ⟨i.before, ?_, ?_⟩⟩
  · exact readRows_eq (fun _ _ hs => Value.toInteger_of_isNumeral hs) hi.before_keys
      hi.before_places
      hbeforeRows
  refine bind_eq_ok.mpr ⟨after, hafter, bind_eq_ok.mpr ⟨i.after, ?_, rfl⟩⟩
  exact readRows_eq (fun _ _ hs => Location.read_of_isSpelling hs) hi.after_keys hi.after_places
    hafterRows

end Initialization

namespace Function

variable {f : Function} {fields : List (String × Value)}

theorem body_read_eq (hf : f.IsRegular) (h : f.IsWrittenIn fields) :
    Body.read (.table fields) = .ok f.body := by
  obtain ⟨locals, hlocals, hlocalItems⟩ := h.locals.elementsOf
  obtain ⟨blocks, hblocks, hblockItems⟩ := h.blocks.elementsOf
  have hlocalDecls : readIndexed LocalDecl.read 0 locals = .ok f.body.locals := by
    refine readIndexed_eq (fun d w n hw => LocalDecl.read_eq hw) hlocalItems fun i d hd => ?_
    rw [hf.locals i d hd, Nat.zero_add]
  have hblockList : readIndexed Block.read 0 blocks = .ok f.body.blocks := by
    refine readIndexed_eq (fun b w n hw => Block.read_eq hw) hblockItems fun i b hb => ?_
    rw [hf.blocks i b hb, Nat.zero_add]
  refine bind_eq_ok.mpr ⟨locals, hlocals, bind_eq_ok.mpr ⟨f.body.locals, hlocalDecls, ?_⟩⟩
  exact bind_eq_ok.mpr
    ⟨blocks, hblocks, bind_eq_ok.mpr ⟨f.body.blocks, hblockList, hf.blocks.ofBlocks_eq⟩⟩

theorem read_eq (hf : f.IsRegular) {v : Value} (h : f.IsWritten v) : Function.read v = .ok f := by
  obtain ⟨fields, rfl, h⟩ := h
  have hinitialization :
      ((Value.table fields).present? "initialization" >>= Option.mapM Initialization.read) =
        .ok f.initialization :=
    h.initialization.mapM_present? fun i hi w hw =>
      ⟨hw.ne_null, Initialization.read_eq (hf.initialization i hi) hw⟩
  obtain ⟨initialization, hpresent, hinitialization⟩ := bind_eq_ok.mp hinitialization
  -- A path that is left out is the name.
  have hpath : ((Assoc.get? "def_path" fields).map Value.plain).getD (Value.text f.name).plain =
      f.path := by
    rcases h.path with ⟨w, hw, rfl⟩ | ⟨hnone, hdefault⟩
    · rw [hw]
      rfl
    · rw [hnone, hdefault]
      rfl
  refine bind_eq_ok.mpr ⟨_, Value.require_eq h.name, bind_eq_ok.mpr ⟨f.body, body_read_eq hf h, ?_⟩⟩
  refine bind_eq_ok.mpr
    ⟨initialization, hpresent, bind_eq_ok.mpr ⟨f.initialization, hinitialization, ?_⟩⟩
  refine bind_eq_ok.mpr ⟨Assoc.get? "def_path" fields, rfl, ?_⟩
  rw [hpath]
  rfl

end Function

/-! ### One entry for each function -/

def Place.entry (p : Place) : Value :=
  .table [("local", .int p.base), ("projection", .list (p.projection.map .text))]

def Statement.entry (st : Statement) : Value :=
  .table [("kind", .text st.kind.text), ("text", .text st.text),
    ("place", st.place.elim .null Place.entry)]

def Terminator.entry (t : Terminator) : Value :=
  .table
    [("kind", .text t.kind.text), ("text", .text t.text), ("targets", .list (t.targets.map .int)),
     ("unwind", t.unwind.elim .null .int),
     ("imaginary_targets", .list (t.imaginaryTargets.map .int)),
     ("destination", t.destination.elim .null Place.entry), ("func", t.func)]

def Block.entry (b : Block) : Value :=
  .table [("statements", .list (b.statements.map Statement.entry)),
    ("terminator", b.terminator.elim .null Terminator.entry)]

def LocalDecl.entry (d : LocalDecl) : Value :=
  .table [("ty", .text d.type), ("name", d.name)]

/-- The rows of a table, with their keys as text. -/
def Initialization.rowsEntry {κ : Type} (text : κ → String) (rows : List (κ × List String)) :
    Value :=
  .table (rows.map fun row => (text row.1, .list (row.2.map .text)))

def Initialization.entry (i : Initialization) : Value :=
  .table [("before_block", rowsEntry Decimal.text i.before),
    ("after_statement", rowsEntry Location.text i.after)]

/-- The entry of a function in which no field is left out and no local is spelled. -/
def Function.entry (f : Function) : Value :=
  .table [("name", .text f.name), ("def_path", .text f.path),
    ("local_decls", .list (f.body.locals.map LocalDecl.entry)),
    ("basic_blocks", .list (f.body.blocks.map Block.entry)),
    ("initialization", f.initialization.elim .null Initialization.entry)]

theorem isListOf_map {α : Type} {forms : α → Value → Prop} {write : α → Value} {xs : List α}
    (h : ∀ a ∈ xs, forms a (write a)) : IsListOf forms xs (.list (xs.map write)) :=
  ⟨_, rfl, List.forall₂_map_right_iff.mpr (List.forall₂_same.mpr h)⟩

theorem isOptional_elim {α : Type} {forms : α → Value → Prop} {write : α → Value} {o : Option α}
    (h : ∀ a ∈ o, forms a (write a)) : IsOptional forms o (o.elim .null write) := by
  cases o with
  | none => exact rfl
  | some a => exact h a rfl

theorem Place.isWritten_entry (p : Place) : p.IsWritten p.entry :=
  .table rfl (.inl ⟨_, rfl, isListOf_map fun _ _ => rfl⟩)

theorem Statement.isWritten_entry (st : Statement) : IsTable Statement.IsWrittenIn st st.entry := by
  refine ⟨_, rfl, ⟨rfl, .inl ⟨_, rfl, rfl⟩, .inl ⟨_, rfl, ?_⟩⟩⟩
  exact isOptional_elim fun p _ => p.isWritten_entry

theorem Terminator.isWritten_entry (t : Terminator) : IsTable Terminator.IsWrittenIn t t.entry := by
  refine ⟨_, rfl, ⟨rfl, .inl ⟨_, rfl, rfl⟩, .inl ⟨_, rfl, ?_⟩, .inl ⟨_, rfl, ?_⟩, .inl ⟨_, rfl, ?_⟩,
    .inl ⟨_, rfl, ?_⟩, .inl ⟨_, rfl, rfl⟩⟩⟩
  · exact isListOf_map fun _ _ => rfl
  · exact isOptional_elim fun _ _ => rfl
  · exact isListOf_map fun _ _ => rfl
  · exact isOptional_elim fun p _ => p.isWritten_entry

theorem Block.isWritten_entry (b : Block) : IsTable Block.IsWrittenIn b b.entry := by
  refine ⟨_, rfl, ⟨.inl ⟨_, rfl, ?_⟩, .inl ⟨_, rfl, ?_⟩⟩⟩
  · exact isListOf_map fun st _ => st.isWritten_entry
  · exact isOptional_elim fun t _ => t.isWritten_entry

theorem LocalDecl.isWritten_entry (d : LocalDecl) : IsTable LocalDecl.IsWrittenIn d d.entry :=
  ⟨_, rfl, ⟨.inl ⟨_, rfl, rfl⟩, .inl ⟨_, rfl, rfl⟩⟩⟩

namespace Initialization

theorem isTable_rowsEntry {κ : Type} {isKey : κ → String → Prop} {text : κ → String}
    {rows : List (κ × List String)} (h : ∀ row ∈ rows, isKey row.1 (text row.1)) :
    IsTable (List.Forall₂ (IsRow isKey)) rows (rowsEntry text rows) :=
  ⟨_, rfl, List.forall₂_map_right_iff.mpr (List.forall₂_same.mpr fun row hrow => ⟨h row hrow, rfl⟩)⟩

theorem isWritten_entry {i : Initialization} (hi : i.IsRegular) :
    IsTable IsWrittenIn i i.entry := by
  refine ⟨_, rfl, ⟨.inl ⟨_, rfl, isTable_rowsEntry fun row hrow => ?_⟩,
    .inl ⟨_, rfl, isTable_rowsEntry fun row hrow => ?_⟩⟩⟩
  · obtain ⟨hnonneg, hfits⟩ := hi.before_spelled row hrow
    exact isNumeral_text hnonneg hfits
  · obtain ⟨⟨hblock, hblockFits⟩, hindex, hindexFits⟩ := hi.after_spelled row hrow
    refine ⟨_, _, isNumeral_text hblock hblockFits, isNumeral_text hindex hindexFits, ?_⟩
    simp only [Location.text, String.toList_append]

end Initialization

namespace Function

theorem isWritten_entry {f : Function} (hf : f.IsRegular) : f.IsWritten f.entry := by
  refine ⟨_, rfl,
    ⟨rfl, .inl ⟨_, rfl, rfl⟩, .inl ⟨_, rfl, ?_⟩, .inl ⟨_, rfl, ?_⟩, .inl ⟨_, rfl, ?_⟩⟩⟩
  · exact isListOf_map fun d _ => d.isWritten_entry
  · exact isListOf_map fun b _ => b.isWritten_entry
  · exact isOptional_elim fun i hi => Initialization.isWritten_entry (hf.initialization i hi)

/-- Reading a bundle undoes writing it: a function has an entry, and every entry that it has is
read as the function. -/
theorem entries_readBack {f : Function} (hf : f.IsRegular) :
    (∃ v, f.IsWritten v) ∧ ∀ v, f.IsWritten v → Function.read v = .ok f :=
  ⟨⟨f.entry, isWritten_entry hf⟩, fun _ hv => read_eq hf hv⟩

/-- A function with a call into a projected place. -/
def swapFunction : Function where
  name := "swap"
  path := "krate::swap"
  body :=
    ⟨[⟨0, [⟨.assign, "_2 = &mut (_1.1: u32)", some ⟨2, []⟩⟩, ⟨.nop, "", none⟩],
        some ⟨.call, "_1.0 = f()", [1], some 1, [], some ⟨1, [".0"]⟩, .text "f"⟩⟩, ⟨1, [], none⟩],
      [⟨0, "()", .null⟩, ⟨1, "T", .text "a"⟩]⟩
  initialization := some ⟨[(0, ["_1"])], [(⟨0, 0⟩, ["_1", "_2"])]⟩

/-- An entry for it in which the local of the assignment is spelled and most defaults are left
out. -/
def swapEntry : Value :=
  .table [
    ("basic_blocks", .list [
      .table [
        ("terminator", .table [
          ("func", .text "f"), ("text", .text "_1.0 = f()"), ("kind", .text "call"),
          ("targets", .list [.int 1]), ("unwind", .int 1),
          ("destination", .table [("projection", .list [.text ".0"]), ("local", .int 1)])]),
        ("statements", .list [
          .table [("kind", .text "assign"), ("text", .text "_2 = &mut (_1.1: u32)"),
            ("place", .text "_2")],
          .table [("kind", .text "nop"), ("place", .null)]])],
      .table []]),
    ("def_path", .text "krate::swap"),
    ("name", .text "swap"),
    ("local_decls", .list [
      .table [("name", .null), ("ty", .text "()")],
      .table [("name", .text "a"), ("ty", .text "T")]]),
    ("initialization", .table [
      ("before_block", .table [("0", .list [.text "_1"])]),
      ("after_statement", .table [("bb0[0]", .list [.text "_1", .text "_2"])])])]

theorem isRegular_swapFunction : swapFunction.IsRegular where
  locals := by
    intro i d hd
    match i, hd with
    | 0, rfl => rfl
    | 1, rfl => rfl
  blocks := by
    intro i b hb
    match i, hb with
    | 0, rfl => rfl
    | 1, rfl => rfl
  initialization := by
    rintro i ⟨⟩
    constructor <;> simp [Decimal.fits, Decimal.digitLimit]

theorem isWritten_swapEntry : swapFunction.IsWritten swapEntry := by
  have hzero : IsNumeral "0".toList 0 := isNumeral_text (n := 0) (by decide) (by decide)
  have hplace : Place.IsWritten ⟨2, []⟩ (.text "_2") :=
    .spelled (isNumeral_text (n := 2) (by decide) (by decide))
  have hdestination : Place.IsWritten ⟨1, [".0"]⟩
      (.table [("projection", .list [.text ".0"]), ("local", .int 1)]) :=
    .table rfl (.inl ⟨_, rfl, _, rfl, .cons rfl .nil⟩)
  refine ⟨_, rfl, ⟨rfl, .inl ⟨_, rfl, rfl⟩, .inl ⟨_, rfl, _, rfl, ?_⟩, .inl ⟨_, rfl, _, rfl, ?_⟩,
    .inl ⟨_, rfl, _, rfl, ?_⟩⟩⟩
  · exact .cons ⟨_, rfl, .inl ⟨_, rfl, rfl⟩, .inl ⟨_, rfl, rfl⟩⟩
      (.cons ⟨_, rfl, .inl ⟨_, rfl, rfl⟩, .inl ⟨_, rfl, rfl⟩⟩ .nil)
  · refine .cons ⟨_, rfl, .inl ⟨_, rfl, _, rfl, ?_⟩, .inl ⟨_, rfl, _, rfl, ?_⟩⟩
      (.cons ⟨_, rfl, .inr ⟨rfl, rfl⟩, .inr ⟨rfl, rfl⟩⟩ .nil)
    · exact .cons ⟨_, rfl, rfl, .inl ⟨_, rfl, rfl⟩, .inl ⟨_, rfl, hplace⟩⟩
        (.cons ⟨_, rfl, rfl, .inr ⟨rfl, rfl⟩, .inl ⟨_, rfl, rfl⟩⟩ .nil)
    · exact ⟨rfl, .inl ⟨_, rfl, rfl⟩, .inl ⟨_, rfl, _, rfl, .cons rfl .nil⟩, .inl ⟨_, rfl, rfl⟩,
        .inr ⟨rfl, rfl⟩, .inl ⟨_, rfl, hdestination⟩, .inl ⟨_, rfl, rfl⟩⟩
  · refine ⟨.inl ⟨_, rfl, _, rfl, .cons ⟨hzero, rfl⟩ .nil⟩,
      .inl ⟨_, rfl, _, rfl, .cons ⟨?_, rfl⟩ .nil⟩⟩
    exact ⟨_, _, hzero, hzero, rfl⟩

/-- The entry is read as the function, with its defaults and its spelled local. -/
theorem swapEntry_readBack :
    swapFunction.IsRegular ∧ swapFunction.IsWritten swapEntry ∧
      Function.read swapEntry = .ok swapFunction :=
  ⟨isRegular_swapFunction, isWritten_swapEntry,
    (entries_readBack isRegular_swapFunction).2 _ isWritten_swapEntry⟩

end Function
end BorrowGraph
