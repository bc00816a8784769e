/-
What the cells of a record tell.

The cells of loans, of created loans and of live regions hold lists of items, in order and
separated by commas.  Each item can be told from its text, and where the text of an item ends
can be told from what may follow it (`IsReadable`), so that a list can be told from its text
although commas also stand inside of items.

* `IsReadable`: texts that can be told apart, and from what follows them;
* `commas_injective`: lists of readable items;
* `IsListing`: a text that shows the items of a list in a strict order;
* `cells_determine_facts`: the cells of a record determine what they show.
-/
import BorrowGraph.Proofs.Eligibility
import BorrowGraph.Proofs.Escaping

namespace BorrowGraph.Dot

/-! ### Readable items -/

/-- The texts of different items differ, whatever follows them of what may follow. -/
def IsReadable {α : Type} (follows : List Char → Prop) (text : α → String) : Prop :=
  ∀ ⦃a b : α⦄ ⦃u v : List Char⦄, follows u → follows v →
    (text a).toList ++ u = (text b).toList ++ v → a = b ∧ u = v

/-- What may follow a number: anything that does not begin with a digit. -/
def EndsNumber (u : List Char) : Prop :=
  ∀ c ∈ u.head?, Text.isDigit c = false

/-- What may follow an item of a list: nothing, or a comma. -/
def EndsItem (u : List Char) : Prop :=
  ∀ c ∈ u.head?, c = ','

theorem endsNumber_cons {c : Char} (h : Text.isDigit c = false) (u : List Char) :
    EndsNumber (c :: u) := by
  intro x hx
  rw [List.head?_cons, Option.mem_some_iff] at hx
  rwa [← hx]

theorem EndsItem.endsNumber {u : List Char} (h : EndsItem u) : EndsNumber u := by
  intro c hc
  rw [h c hc]
  decide

theorem isDigit_of_mem_toDigits {n : Nat} {c : Char} (h : c ∈ Nat.toDigits 10 n) :
    Text.isDigit c = true :=
  Spelling.isDigit_of_ascii (Nat.isDigit_of_mem_toDigits (by decide) (by decide) h)

theorem toDigits_append_inj {m n : Nat} {u v : List Char} (hu : EndsNumber u) (hv : EndsNumber v)
    (h : Nat.toDigits 10 m ++ u = Nat.toDigits 10 n ++ v) : m = n ∧ u = v := by
  obtain ⟨hm, hu⟩ := Spelling.span_digits (fun c => isDigit_of_mem_toDigits (n := m)) hu
  obtain ⟨hn, hv⟩ := Spelling.span_digits (fun c => isDigit_of_mem_toDigits (n := n)) hv
  rw [h, hn] at hm
  rw [h, hv] at hu
  refine ⟨?_, hu.symm⟩
  rw [← Nat.ofDigitChars_ten_toDigits (n := m), ← hm, Nat.ofDigitChars_ten_toDigits]

/-- Numbers can be told from their text, if no digit follows. -/
theorem isReadable_number : IsReadable EndsNumber Decimal.text := by
  have hsign : ∀ (m n : Nat) (u v : List Char),
      Nat.toDigits 10 m ++ u ≠ '-' :: (Nat.toDigits 10 n ++ v) := by
    intro m n u v h
    obtain ⟨c, cs, hcs⟩ := List.exists_cons_of_ne_nil (Nat.toDigits_ne_nil (n := m) (b := 10))
    rw [hcs, List.cons_append] at h
    exact Spelling.dash_not_mem_toDigits m
      (by rw [hcs, (List.cons.inj h).1]; exact List.mem_cons_self)
  have hpos : ∀ k : Nat, (Decimal.text (Int.ofNat k)).toList = Nat.toDigits 10 k :=
    Spelling.toList_text
  have hneg := Spelling.toList_text_negSucc
  intro a b u v hu hv h
  cases a with
  | ofNat m =>
    cases b with
    | ofNat n =>
      rw [hpos, hpos] at h
      obtain ⟨rfl, huv⟩ := toDigits_append_inj hu hv h
      exact ⟨rfl, huv⟩
    | negSucc n =>
      rw [hpos, hneg] at h
      exact absurd h (hsign _ _ _ _)
  | negSucc m =>
    cases b with
    | ofNat n =>
      rw [hpos, hneg] at h
      exact absurd h.symm (hsign _ _ _ _)
    | negSucc n =>
      rw [hneg, hneg] at h
      obtain ⟨hmn, huv⟩ := toDigits_append_inj hu hv (List.cons.inj h).2
      rw [Nat.succ_inj.mp hmn]
      exact ⟨rfl, huv⟩

section Combining

variable {α β : Type} {follows follows' : List Char → Prop} {text : α → String} {text' : β → String}

theorem IsReadable.mono (h : IsReadable follows text) (hfollows : ∀ u, follows' u → follows u) :
    IsReadable follows' text :=
  fun _ _ u v hu hv heq => h (hfollows u hu) (hfollows v hv) heq

theorem IsReadable.markBefore (h : IsReadable follows text) (mark : String) :
    IsReadable follows fun a => mark ++ text a := by
  intro a b u v hu hv heq
  rw [String.toList_append, String.toList_append, List.append_assoc, List.append_assoc] at heq
  exact h hu hv (List.append_cancel_left heq)

theorem IsReadable.markBehind (h : IsReadable follows text) {mark : String}
    (hmark : ∀ u, follows' u → follows (mark.toList ++ u)) :
    IsReadable follows' fun a => text a ++ mark := by
  intro a b u v hu hv heq
  rw [String.toList_append, String.toList_append, List.append_assoc, List.append_assoc] at heq
  obtain ⟨hab, hrest⟩ := h (hmark u hu) (hmark v hv) heq
  exact ⟨hab, List.append_cancel_left hrest⟩

theorem IsReadable.pair (h : IsReadable follows text) (h' : IsReadable follows' text')
    (hfollows : ∀ b u, follows' u → follows ((text' b).toList ++ u)) :
    IsReadable follows' fun x : α × β => text x.1 ++ text' x.2 := by
  intro a b u v hu hv heq
  rw [String.toList_append, String.toList_append, List.append_assoc, List.append_assoc] at heq
  obtain ⟨hfirst, hrest⟩ := h (hfollows _ u hu) (hfollows _ v hv) heq
  obtain ⟨hsecond, huv⟩ := h' hu hv hrest
  exact ⟨Prod.ext hfirst hsecond, huv⟩

end Combining

/-- Anything may follow a region. -/
theorem isReadable_region : IsReadable (fun _ => True) Region.text :=
  (isReadable_number.markBefore "'_#").markBehind fun u _ => endsNumber_cons (by decide) u

theorem isReadable_loan : IsReadable EndsNumber Loan.text :=
  isReadable_number.markBefore "bw"

theorem isReadable_local : IsReadable EndsNumber Local.text :=
  isReadable_number.markBefore "_"

/-- The text of a created loan. -/
def borrowText (x : Region × Loan) : String :=
  "(" ++ Region.text x.1 ++ ", " ++ Loan.text x.2 ++ ")"

/-- Anything may follow a created loan, since it ends with a bracket. -/
theorem isReadable_borrow : IsReadable (fun _ => True) borrowText := by
  have hregion : IsReadable (fun _ => True) fun r => "(" ++ Region.text r ++ ", " :=
    (isReadable_region.markBefore "(").markBehind fun _ _ => trivial
  exact (hregion.pair isReadable_loan fun _ _ _ => trivial).markBehind
    fun u _ => endsNumber_cons (by decide) u

/-- An owner stands behind a colon, which no item begins with. -/
theorem isReadable_owned : IsReadable EndsItem regionText := by
  have howner : ∀ (r : Region) (n : Local),
      (regionText (r, some n)).toList =
        (Region.text r).toList ++ (": ".toList ++ (Local.text n).toList) := by
    intro r n
    rw [regionText, String.toList_append, String.toList_append, List.append_assoc]
  have hcolon : ∀ {r r' : Region} {n : Local} {u v : List Char}, EndsItem u →
      (regionText (r, none)).toList ++ u ≠ (regionText (r', some n)).toList ++ v := by
    intro r r' n u v hu h
    -- Both begin with a region; behind it stands what ends an item on one side, and a colon on
    -- the other.
    rw [howner, List.append_assoc, List.append_assoc] at h
    obtain ⟨-, rfl⟩ := isReadable_region trivial trivial h
    exact absurd (hu ':' rfl) (by decide)
  rintro ⟨r, m⟩ ⟨r', n⟩ u v hu hv h
  cases m with
  | none =>
    cases n with
    | none =>
      obtain ⟨rfl, huv⟩ := isReadable_region trivial trivial h
      exact ⟨rfl, huv⟩
    | some n => exact absurd h (hcolon hu)
  | some m =>
    cases n with
    | none => exact absurd h.symm (hcolon hv)
    | some n =>
      rw [howner, howner, List.append_assoc, List.append_assoc, List.append_assoc,
        List.append_assoc] at h
      obtain ⟨rfl, hrest⟩ := isReadable_region trivial trivial h
      obtain ⟨rfl, huv⟩ := isReadable_local hu.endsNumber hv.endsNumber
        (List.append_cancel_left hrest)
      exact ⟨rfl, huv⟩

/-! ### Lists of items -/

/-- The items behind the first one, each with its comma. -/
def restText (ts : List String) : List Char :=
  ts.flatMap fun t => ", ".toList ++ t.toList

theorem toList_commas_cons (t : String) (ts : List String) :
    (commas (t :: ts)).toList = t.toList ++ restText ts := by
  induction ts generalizing t with
  | nil => simp [commas, restText]
  | cons t' ts ih =>
    have hrest : restText (t' :: ts) = ", ".toList ++ (commas (t' :: ts)).toList := by
      rw [ih, restText, List.flatMap_cons, List.append_assoc, restText]
    rw [hrest, commas, commas, String.toList_intercalate, String.toList_intercalate, List.map_cons,
      List.map_cons, List.intercalate_cons_cons, List.append_assoc]

theorem endsItem_restText (ts : List String) : EndsItem (restText ts) := by
  cases ts with
  | nil => simp [EndsItem, restText]
  | cons t ts => simp [EndsItem, restText]

section Lists

variable {α : Type} {item : α → String}

theorem restText_injective (h : IsReadable EndsItem item) {xs ys : List α}
    (heq : restText (xs.map item) = restText (ys.map item)) : xs = ys := by
  induction xs generalizing ys with
  | nil =>
    cases ys with
    | nil => rfl
    | cons y ys => simp [restText] at heq
  | cons x xs ih =>
    cases ys with
    | nil => simp [restText] at heq
    | cons y ys =>
      rw [restText, restText, List.map_cons, List.map_cons, List.flatMap_cons, List.flatMap_cons,
        List.append_assoc, List.append_assoc] at heq
      obtain ⟨rfl, hrest⟩ := h (endsItem_restText _) (endsItem_restText _)
        (List.append_cancel_left heq)
      rw [ih hrest]

/-- A list of readable items can be told from its text. -/
theorem commas_injective (h : IsReadable EndsItem item) (hne : ∀ a, (item a).toList ≠ [])
    {xs ys : List α} (heq : commas (xs.map item) = commas (ys.map item)) : xs = ys := by
  have hnil : (commas []).toList = [] := rfl
  rw [← String.toList_inj] at heq
  cases xs with
  | nil =>
    cases ys with
    | nil => rfl
    | cons y ys =>
      rw [List.map_nil, hnil, List.map_cons, toList_commas_cons] at heq
      exact absurd (List.append_eq_nil_iff.mp heq.symm).1 (hne y)
  | cons x xs =>
    cases ys with
    | nil =>
      rw [List.map_nil, hnil, List.map_cons, toList_commas_cons] at heq
      exact absurd (List.append_eq_nil_iff.mp heq).1 (hne x)
    | cons y ys =>
      rw [List.map_cons, List.map_cons, toList_commas_cons, toList_commas_cons] at heq
      obtain ⟨rfl, hrest⟩ := h (endsItem_restText _) (endsItem_restText _) heq
      rw [restText_injective h hrest]

/-- Escaping a list escapes its items, since the commas between them stay as they are. -/
theorem escapeLabel_commas (ts : List String) :
    escapeLabel (commas ts) = commas (ts.map escapeLabel) := by
  cases ts with
  | nil => rfl
  | cons t ts =>
    have hcomma : Text.escapeWith escapeLabelChar ", ".toList = ", ".toList := by decide
    rw [← String.toList_inj, List.map_cons, toList_commas_cons, escapeLabel, String.toList_ofList,
      toList_commas_cons, Text.escapeWith, List.flatMap_append, escapeLabel, String.toList_ofList,
      Text.escapeWith, restText, restText, List.flatMap_assoc, List.flatMap_map]
    refine congrArg (t.toList.flatMap escapeLabelChar ++ ·) (List.flatMap_congr fun t' _ => ?_)
    rw [List.flatMap_append, ← Text.escapeWith, hcomma, escapeLabel, String.toList_ofList,
      Text.escapeWith, String.toList_ofList]

/-! ### Items in order -/

/-- A text that shows the items of a list, each after all that come before it in an order. -/
def IsListing (item : α → String) (before : α → α → Prop) (xs : List α) (text : String) : Prop :=
  ∃ ys : List α, ys.Perm xs ∧ ys.Pairwise before ∧ text = commas (ys.map item)

variable {le : α → α → Bool}

theorem perm_of_commas_eq (h : IsReadable EndsItem item) (hne : ∀ a, (item a).toList ≠ [])
    {xs ys : List α}
    (heq : commas ((xs.mergeSort le).map item) = commas ((ys.mergeSort le).map item)) :
    xs.Perm ys := by
  have hsorted : xs.mergeSort le = ys.mergeSort le := commas_injective h hne heq
  have hys : (xs.mergeSort le).Perm ys := hsorted ▸ List.mergeSort_perm ys le
  exact (List.mergeSort_perm xs le).symm.trans hys

/-- Sorted items without repetitions are in strict order. -/
theorem isListing_mergeSort {before : α → α → Prop} {xs : List α} (hxs : xs.Nodup)
    (htrans : ∀ a b c, le a b = true → le b c = true → le a c = true)
    (htotal : ∀ a b, (le a b || le b a) = true)
    (hbefore : ∀ a ∈ xs, ∀ b ∈ xs, le a b = true → a ≠ b → before a b) :
    IsListing item before xs (commas ((xs.mergeSort le).map item)) := by
  have hperm : (xs.mergeSort le).Perm xs := List.mergeSort_perm xs le
  have hsorted : (xs.mergeSort le).Pairwise fun a b => le a b = true :=
    List.pairwise_mergeSort htrans htotal xs
  have hdistinct : (xs.mergeSort le).Nodup := hperm.nodup_iff.mpr hxs
  refine ⟨xs.mergeSort le, hperm, ?_, rfl⟩
  -- In a sorted list without repetitions, what comes later is greater and not the same.
  refine (hsorted.and hdistinct).imp_of_mem fun {a b} ha hb hab => ?_
  exact hbefore a (hperm.mem_iff.mp ha) b (hperm.mem_iff.mp hb) hab.1 hab.2

theorem IsListing.escaped {before : α → α → Prop} {xs : List α} {text : String}
    (h : IsListing item before xs text) :
    IsListing (fun a => escapeLabel (item a)) before xs (escapeLabel text) := by
  obtain ⟨ys, hperm, hsorted, rfl⟩ := h
  refine ⟨ys, hperm, hsorted, ?_⟩
  rw [escapeLabel_commas, List.map_map]
  rfl

end Lists

/-- The strict order of created loans: by region, then by loan. -/
def BorrowLt (a b : Region × Loan) : Prop :=
  a.1 < b.1 ∨ a.1 = b.1 ∧ a.2 < b.2

/-- The strict order of owners: no owner comes first. -/
def OwnerLt : Option Local → Option Local → Prop
  | none, some _ => True
  | some m, some n => m < n
  | _, none => False

/-- The strict order of regions with owners: by region, then by owner. -/
def OwnedLt (a b : Region × Option Local) : Prop :=
  a.1 < b.1 ∨ a.1 = b.1 ∧ OwnerLt a.2 b.2

theorem borrowsText_eq (xs : List (Region × Loan)) :
    borrowsText xs = commas ((xs.mergeSort Facts.pairLe).map borrowText) := rfl

theorem isListing_loans {xs : List Loan} (h : xs.Nodup) :
    IsListing Loan.text (· < ·) xs (loansText xs) := by
  refine isListing_mergeSort h ?_ ?_ ?_
  · simp only [decide_eq_true_eq]
    omega
  · simp only [Bool.or_eq_true, decide_eq_true_eq]
    omega
  · intro a _ b _ hab hne
    exact lt_of_le_of_ne (of_decide_eq_true hab) hne

theorem isListing_borrows {xs : List (Region × Loan)} (h : xs.Nodup) :
    IsListing borrowText BorrowLt xs (borrowsText xs) := by
  rw [borrowsText_eq]
  refine isListing_mergeSort h ?_ ?_ ?_
  · intro a b c hab hbc
    exact pairLe_iff.mpr ((pairLe_iff.mp hab).trans (pairLe_iff.mp hbc))
  · intro a b
    simpa only [Bool.or_eq_true, pairLe_iff] using PairLe.total a b
  · intro a _ b _ hab hne
    rcases pairLe_iff.mp hab with hlt | ⟨heq, hle⟩
    · exact .inl hlt
    · exact .inr ⟨heq, lt_of_le_of_ne hle fun heq' => hne (Prod.ext heq heq')⟩

/-- No owner counts as the number in front of all numbers of locals. -/
theorem isListing_regions {xs : List (Region × Option Local)} (h : xs.Nodup)
    (howners : ∀ x ∈ xs, ∀ n ∈ x.2, 0 ≤ n) :
    IsListing regionText OwnedLt xs (regionsText xs) := by
  refine isListing_mergeSort h ?_ ?_ ?_
  · intro a b c hab hbc
    exact pairLe_iff.mpr ((pairLe_iff.mp hab).trans (pairLe_iff.mp hbc))
  · intro a b
    simpa only [Bool.or_eq_true, ownedLe, pairLe_iff] using PairLe.total _ _
  · rintro ⟨r, m⟩ ha ⟨r', n⟩ hb hab hne
    have hm := howners _ ha
    have hn := howners _ hb
    rcases pairLe_iff.mp hab with hlt | ⟨heq, hle⟩
    · exact .inl hlt
    · refine .inr ⟨heq, ?_⟩
      obtain rfl : r = r' := heq
      cases m with
      | none =>
        cases n with
        | none => exact absurd rfl hne
        | some n => trivial
      | some m =>
        have hm' : 0 ≤ m := hm m rfl
        cases n with
        | none =>
          -- No owner was taken for the local -1, which no local is.
          have hle' : m ≤ -1 := hle
          exact absurd (hm'.trans hle') (by decide)
        | some n =>
          have hle' : m ≤ n := hle
          exact lt_of_le_of_ne hle' fun heq' => hne (by rw [heq'])

/-! ### The cells of a record -/

theorem nonempty_loan (l : Loan) : (Loan.text l).toList ≠ [] := by
  simp [Loan.text]

theorem nonempty_borrow (x : Region × Loan) : (borrowText x).toList ≠ [] := by
  simp [borrowText]

theorem nonempty_owned (x : Region × Option Local) : (regionText x).toList ≠ [] := by
  obtain ⟨r, _ | n⟩ := x
  · simp [regionText, Region.text]
  · simp [regionText, Region.text]

/-- The cells of a record determine what they show.  Sets of loans, of created loans and of
live regions with their owners that give the same cell are the same, and each cell shows its
set in strict order. -/
theorem cells_determine_facts {loans : List Loan} {borrows : List (Region × Loan)}
    {regions : List (Region × Option Local)} (hloans : loans.Nodup) (hborrows : borrows.Nodup)
    (hregions : regions.Nodup) (howners : ∀ x ∈ regions, ∀ n ∈ x.2, 0 ≤ n) :
    ((∀ loans', loansText loans = loansText loans' → loans.Perm loans') ∧
      IsListing Loan.text (· < ·) loans (loansText loans)) ∧
    ((∀ borrows', escapeLabel (borrowsText borrows) = escapeLabel (borrowsText borrows') →
        borrows.Perm borrows') ∧
      IsListing (fun x => escapeLabel (borrowText x)) BorrowLt borrows
        (escapeLabel (borrowsText borrows))) ∧
    (∀ regions', escapeLabel (regionsText regions) = escapeLabel (regionsText regions') →
        regions.Perm regions') ∧
      IsListing (fun x => escapeLabel (regionText x)) OwnedLt regions
        (escapeLabel (regionsText regions)) := by
  refine ⟨⟨fun loans' h => ?_, isListing_loans hloans⟩,
    ⟨fun borrows' h => ?_, (isListing_borrows hborrows).escaped⟩,
    fun regions' h => ?_, (isListing_regions hregions howners).escaped⟩
  · exact perm_of_commas_eq (isReadable_loan.mono fun _ => EndsItem.endsNumber) nonempty_loan h
  · rw [borrowsText_eq, borrowsText_eq] at h
    exact perm_of_commas_eq (isReadable_borrow.mono fun _ _ => trivial) nonempty_borrow
      (escapeLabel_injective h)
  · exact perm_of_commas_eq isReadable_owned nonempty_owned (escapeLabel_injective h)

def someLoans : List Loan := [10, 9]

def someBorrows : List (Region × Loan) := [(2, 10), (2, 9), (1, 30)]

/-- One region has an owner and none, which no report shows, but a cell can. -/
def someRegions : List (Region × Option Local) := [(2, none), (1, some 0), (1, none)]

theorem someCells_determine_facts :
    someLoans.Nodup ∧ someBorrows.Nodup ∧ someRegions.Nodup ∧
      (∀ x ∈ someRegions, ∀ n ∈ x.2, 0 ≤ n) ∧
      loansText someLoans = loansText someLoans.reverse ∧ someLoans.Perm someLoans.reverse ∧
      escapeLabel (borrowsText someBorrows) = escapeLabel (borrowsText someBorrows.reverse) ∧
      someBorrows.Perm someBorrows.reverse ∧
      escapeLabel (regionsText someRegions) = escapeLabel (regionsText someRegions.reverse) ∧
      someRegions.Perm someRegions.reverse ∧
      IsListing (fun x => escapeLabel (regionText x)) OwnedLt someRegions
        (escapeLabel (regionsText someRegions)) := by
  have howners : ∀ x ∈ someRegions, ∀ n ∈ x.2, 0 ≤ n := by simp [someRegions]
  have hloans : loansText someLoans = loansText someLoans.reverse := by
    simp [someLoans, loansText, Liveness.sortInts, List.mergeSort]
  have hborrows : escapeLabel (borrowsText someBorrows) =
      escapeLabel (borrowsText someBorrows.reverse) := by
    simp [someBorrows, borrowsText_eq, List.mergeSort, Facts.pairLe]
  have hregions : escapeLabel (regionsText someRegions) =
      escapeLabel (regionsText someRegions.reverse) := by
    simp [someRegions, regionsText, List.mergeSort, ownedLe, Facts.pairLe]
  have hnodup : someLoans.Nodup ∧ someBorrows.Nodup ∧ someRegions.Nodup := by decide
  obtain ⟨⟨hloans', -⟩, ⟨hborrows', -⟩, hregions', hlisting⟩ :=
    cells_determine_facts hnodup.1 hnodup.2.1 hnodup.2.2 howners
  exact ⟨hnodup.1, hnodup.2.1, hnodup.2.2, howners, hloans, hloans' _ hloans, hborrows,
    hborrows' _ hborrows, hregions, hregions' _ hregions, hlisting⟩

end BorrowGraph.Dot
