/-
What the errors of a document say about its text.

The readers of documents are sound, by an induction on the steps that are allowed: a whole
number is too long only if as many digits stand in the text, and the nesting is too deep only
if the text opens that many lists and tables (`concerns_of_read_eq_error`).
-/
import BorrowGraph.Json
import BorrowGraph.Proofs.ReaderErrors
import BorrowGraph.Proofs.Results

namespace BorrowGraph.Json

/-- A text has a row of this many digits. -/
def HasDigits (cs : List Char) (n : Nat) : Prop :=
  ∃ digits, digits <:+: cs ∧ digits.length = n ∧ ∀ c ∈ digits, isDigit c = true

/-- How the errors of a document are to be taken. -/
def account (limits : Limits) : Account Error where
  finding
    | .malformed _ _ => .malformed
    | .tooLong n => .tooLong n
    | .tooDeep => .tooDeep
  IsLong n := ∃ bound, limits.digits = some bound ∧ bound < n
  HasNumeral := HasDigits
  hasNumeral_mono := fun ⟨digits, hinfix, hdigits⟩ h => ⟨digits, hinfix.trans h.isInfix, hdigits⟩
  weight := 1

/-- A reader leaves an end of its text, or fails with an error that concerns the text. -/
abbrev Sound {α : Type} (limits : Limits) (depth : Nat) (cs : List Char)
    (r : Except Error (α × Rest)) : Prop :=
  BorrowGraph.Sound (fun x => x.2.2) (account limits) depth cs r

theorem Sound.malformed {α : Type} {limits : Limits} {depth : Nat} {cs : List Char}
    (problem : Problem)
    (position : Nat) :
    Sound limits depth cs (.error (.malformed problem position) : Except Error (α × Rest)) :=
  .error trivial

/-! ### Parts of a text -/

section Parts

variable {limits : Limits} {depth : Nat}

theorem skipSpace_suffix (pos : Nat) (cs : List Char) : (skipSpace pos cs).2 <:+ cs := by
  induction cs generalizing pos with
  | nil => exact List.suffix_rfl
  | cons c cs ih =>
    rw [skipSpace]
    split
    · exact (ih (pos + 1)).trans (List.suffix_cons c cs)
    · exact List.suffix_rfl

theorem suffix_of_skipSpace {pos p : Nat} {cs rest : List Char} (h : skipSpace pos cs = (p, rest)) :
    rest <:+ cs := by
  have hs := skipSpace_suffix pos cs
  rw [h] at hs
  exact hs

theorem Sound.consChar {cs cs' : List Char} {tail : Except Error (List Char × Rest)}
    (h : Sound limits depth cs' tail) (hs : cs' <:+ cs) (c : Char) :
    Sound limits depth cs (Json.consChar c tail) :=
  (h.mono hs).bind fun _ hrest => .ok hrest

theorem stringBody_sound (start pos : Nat) (cs : List Char) :
    Sound limits depth cs (stringBody start pos cs) := by
  fun_induction stringBody start pos cs with
  | case2 pos cs => exact .ok (List.suffix_cons _ _)
  -- a character is read, and the string goes on behind it
  | case7 | case8 | case9 | case10 | case13 | case15 =>
    refine Sound.consChar ‹_› ?_ _
    simp only [List.suffix_cons_iff, List.suffix_rfl, or_true]
  | _ => exact Sound.malformed _ _

theorem scanFraction_suffix (cs : List Char) : (scanFraction cs).2 <:+ cs := by
  fun_cases scanFraction cs with
  | case1 c cs h => exact (List.dropWhile_suffix _).trans (List.suffix_cons _ _)
  | case2 c cs h => exact List.suffix_rfl
  | case3 h => exact List.suffix_rfl

theorem scanExponent_suffix (cs : List Char) : (scanExponent cs).2.2 <:+ cs := by
  fun_cases scanExponent cs with
  | case1 => exact List.suffix_rfl
  | case2 e tail he negative signs digits hsigns hdigits =>
    have hsuffix : digits <:+ tail := by
      split at hsigns
      · cases hsigns
        exact List.suffix_cons _ _
      · cases hsigns
        exact List.suffix_cons _ _
      · cases hsigns
        exact List.suffix_rfl
    exact ((List.dropWhile_suffix _).trans hsuffix).trans (List.suffix_cons e tail)
  | case3 => exact List.suffix_rfl
  | case4 => exact List.suffix_rfl

/-- A whole part is what stands there, and is made of digits. -/
theorem scanWhole_eq_some {cs whole rest : List Char} (h : scanWhole cs = some (whole, rest)) :
    whole ++ rest = cs ∧ ∀ c ∈ whole, isDigit c = true := by
  rw [scanWhole.eq_def] at h
  split at h
  · cases h
    exact ⟨rfl, by simp [isDigit]⟩
  · split at h
    · cases h
      exact ⟨List.takeWhile_append_dropWhile, fun c hc => List.mem_takeWhile_imp hc⟩
    · cases h
  · cases h

theorem NumberText.eq_tooLong_of_value {t : NumberText} {e : Error}
    (h : t.value limits = .error e) :
    e = .tooLong t.whole.length ∧ ∃ bound, limits.digits = some bound ∧ bound < t.whole.length := by
  rw [NumberText.value] at h
  split at h
  · split at h
    · rename_i hlong
      cases h
      obtain ⟨bound, hbound, hlt⟩ := (Option.any_eq_true _ _).mp hlong
      exact ⟨rfl, bound, hbound, of_decide_eq_true hlt⟩
    · cases h
  · cases h

theorem number_sound (pos : Nat) (cs : List Char) :
    Sound limits depth cs (number limits pos cs) := by
  fun_cases number limits pos cs with
  | case1 => exact Sound.malformed _ _
  | case2 negative digits hsign whole rest hwhole fraction rest' hfraction exponent width rest''
      hexponent t =>
    have hdigits : digits <:+ cs := by
      split at hsign
      · cases hsign
        exact List.suffix_cons _ _
      · cases hsign
        exact List.suffix_rfl
    obtain ⟨happend, hall⟩ := scanWhole_eq_some hwhole
    rcases hvalue : t.value limits with e | v
    · obtain ⟨rfl, hbound⟩ := NumberText.eq_tooLong_of_value hvalue
      have hwhole : whole <:+: digits := ⟨[], rest, happend⟩
      exact .error ⟨hbound, whole, hwhole.trans hdigits.isInfix, rfl, hall⟩
    · have hrest' : rest' <:+ rest := by
        have hs := scanFraction_suffix rest
        rw [hfraction] at hs
        exact hs
      have hrest'' : rest'' <:+ rest' := by
        have hs := scanExponent_suffix rest'
        rw [hexponent] at hs
        exact hs
      have hrest : rest <:+ digits := ⟨whole, happend⟩
      exact .ok (((hrest''.trans hrest').trans hrest).trans hdigits)

end Parts

/-! ### Values -/

section Values

variable {limits : Limits} {fuel depth pos : Nat} {cs : List Char}

/-- The three readers of values are sound when they are allowed this many steps. -/
structure SoundAt (limits : Limits) (fuel : Nat) : Prop where
  value : ∀ depth pos cs, Sound limits depth cs (value limits fuel depth pos cs)
  items : ∀ depth pos cs, Sound limits depth cs (items limits fuel depth pos cs)
  fields : ∀ depth pos cs, Sound limits depth cs (fields limits fuel depth pos cs)

theorem value_sound (ih : ∀ n < fuel, SoundAt limits n) :
    Sound limits depth cs (value limits fuel depth pos cs) := by
  fun_cases value limits fuel depth pos cs with
  | case1 => exact Sound.malformed _ _
  | case2 n depth pos rest =>
    exact ((stringBody_sound pos (pos + 1) rest).mono (List.suffix_cons _ _)).bind
      fun _ hrest => .ok hrest
  -- the nesting is used up, and there is one opening more
  | case3 n pos rest => exact .tooDeep rfl Nat.zero_lt_one rfl
  | case4 n depth pos rest hdepth p rest' hskip =>
    exact .ok
      ((List.suffix_cons _ _).trans ((suffix_of_skipSpace hskip).trans (List.suffix_cons _ _)))
  | case5 n depth pos rest hdepth p rest' hopen hskip =>
    exact (((ih n n.lt_succ_self).items _ p rest').enter (le_refl 1) rfl
      (suffix_of_skipSpace hskip)).bind
      fun _ hrest => .ok hrest
  | case6 n pos rest => exact .tooDeep rfl Nat.zero_lt_one rfl
  | case7 n depth pos rest hdepth p rest' hskip =>
    exact .ok
      ((List.suffix_cons _ _).trans ((suffix_of_skipSpace hskip).trans (List.suffix_cons _ _)))
  | case8 n depth pos rest hdepth p rest' hopen hskip =>
    exact (((ih n n.lt_succ_self).fields _ p rest').enter (le_refl 1) rfl
      (suffix_of_skipSpace hskip)).bind
      fun _ hrest => .ok hrest
  | case9 => exact .ok (List.drop_suffix _ _)
  | case10 => exact number_sound _ _

/-- What stands behind a mark with blanks around it is an end of the text. -/
theorem suffix_between {c : Char} {p : Nat} {rest rest' : List Char} (next : Nat)
    (hrest : rest <:+ cs) (h : (skipSpace p rest).2 = c :: rest') :
    (skipSpace next rest').2 <:+ cs :=
  (skipSpace_suffix next rest').trans (suffix_behind (skipSpace_suffix p rest) hrest h)

theorem items_sound (ih : ∀ n < fuel, SoundAt limits n) :
    Sound limits depth cs (items limits fuel depth pos cs) := by
  fun_cases items limits fuel depth pos cs with
  | case1 => exact Sound.malformed _ _
  | case2 n depth pos cs =>
    have ih := ih n n.lt_succ_self
    refine (ih.value depth pos cs).bind fun ⟨v, p, rest⟩ hrest => ?_
    dsimp only
    -- the list ends, or another item follows
    split
    · rename_i heq
      exact .ok (suffix_behind (skipSpace_suffix p rest) hrest heq)
    · rename_i rest' heq
      have hnext := suffix_between ((skipSpace p rest).1 + 1) hrest heq
      exact ((ih.items depth _ _).mono hnext).bind fun _ hrest => .ok hrest
    · exact Sound.malformed _ _

theorem fields_sound (ih : ∀ n < fuel, SoundAt limits n) :
    Sound limits depth cs (fields limits fuel depth pos cs) := by
  fun_cases fields limits fuel depth pos cs with
  | case1 => exact Sound.malformed _ _
  | case2 n depth pos cs =>
    have ih := ih n n.lt_succ_self
    refine ((stringBody_sound pos (pos + 1) cs).mono (List.suffix_cons _ _)).bind
      fun x hrest => ?_
    obtain ⟨name, p, rest⟩ := x
    dsimp only
    -- only a colon may follow the name
    split
    · rename_i rest' heq
      have hnext := suffix_between ((skipSpace p rest).1 + 1) hrest heq
      refine ((ih.value depth _ _).mono hnext).bind fun y hrest => ?_
      obtain ⟨v, p, rest⟩ := y
      dsimp only
      -- the table ends, or another field follows
      split
      · rename_i heq
        exact .ok (suffix_behind (skipSpace_suffix p rest) hrest heq)
      · rename_i rest' heq
        have hnext := suffix_between ((skipSpace p rest).1 + 1) hrest heq
        exact ((ih.fields depth _ _).mono hnext).bind fun _ hrest => .ok hrest
      · exact Sound.malformed _ _
    · exact Sound.malformed _ _
  | case3 => exact Sound.malformed _ _

theorem soundAt (limits : Limits) (fuel : Nat) : SoundAt limits fuel := by
  induction fuel using Nat.strong_induction_on with
  | h fuel ih =>
    exact ⟨fun _ _ _ => value_sound ih, fun _ _ _ => items_sound ih, fun _ _ _ => fields_sound ih⟩

end Values

/-- Every error of a document concerns its text. -/
theorem concerns_of_read_eq_error {limits : Limits} {source : List Char} {e : Error}
    (h : read limits source = .error e) : (account limits).Concerns limits.depth source e := by
  rw [read] at h
  split at h
  · cases h
    trivial
  · rcases bind_eq_error.mp h with hvalue | ⟨⟨v, p, rest⟩, -, hrest⟩
    · exact (((soundAt limits _).value _ _ _).concerns hvalue).mono (skipSpace_suffix 0 source)
    · dsimp only at hrest
      split at hrest
      · cases hrest
      · cases hrest
        trivial

end BorrowGraph.Json
