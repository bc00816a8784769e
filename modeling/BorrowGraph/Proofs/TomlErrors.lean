/-
What the errors of a settings file say about its text.

The readers of settings files are sound, and parts that may be missing leave an end of the text
if they are there (`Leaves`).  Hence a whole number is too long only if a numeral with as many
digits stands in the text, and the nesting is too deep only if the text opens lists and tables
that often (`concerns_of_read_eq_error`).  A list uses up two of the nesting allowed and a
table three, so that the openings count three times.
-/
import BorrowGraph.Proofs.ReaderErrors
import BorrowGraph.Proofs.Results
import BorrowGraph.Toml

namespace BorrowGraph.Toml

/-- A text has a numeral with this many digits; there may be underscores between them. -/
def HasNumeral (cs : List Char) (n : Nat) : Prop :=
  ∃ numeral, numeral <:+: cs ∧ numeral.countP isDigit = n ∧
    ∀ c ∈ numeral, isDigit c = true ∨ c = '_'

/-- How the errors of a settings file are to be taken. -/
def account : Account Error where
  finding
    | .malformed => .malformed
    | .tooLong n => .tooLong n
    | .tooDeep => .tooDeep
  IsLong n := Decimal.digitLimit < n
  HasNumeral := HasNumeral
  hasNumeral_mono := fun ⟨numeral, hinfix, hnumeral⟩ h =>
    ⟨numeral, hinfix.trans h.isInfix, hnumeral⟩
  weight := 3

/-- A reader, of whose result `left` is still to be read, leaves an end of its text, or fails
with an error that concerns the text. -/
abbrev Sound {α : Type} (left : α → List Char) (depth : Nat) (cs : List Char) (r : Except Error α) :
    Prop :=
  BorrowGraph.Sound left account depth cs r

/-- What is read, if it is there, leaves an end of the text. -/
def Leaves {α : Type} (left : α → List Char) (cs : List Char) (o : Option α) : Prop :=
  ∀ a, o = some a → left a <:+ cs

section Sound

variable {α β : Type} {left : α → List Char} {left' : β → List Char} {depth : Nat}
  {cs cs' : List Char}

theorem Sound.malformed : Sound left depth cs Toml.malformed :=
  .error trivial

namespace Leaves

theorem mono {o : Option α} (ho : Leaves left cs' o) (h : cs' <:+ cs) : Leaves left cs o :=
  fun a ha => (ho a ha).trans h

theorem none : Leaves left cs none := by
  rintro a ⟨⟩

theorem some {a : α} (h : left a <:+ cs) : Leaves left cs (some a) := by
  rintro b ⟨⟩
  exact h

theorem bind {o : Option α} {f : α → Option β} (ho : Leaves left cs o)
    (hf : ∀ a, left a <:+ cs → Leaves left' cs (f a)) : Leaves left' cs (o >>= f) := by
  rcases o with _ | a
  · exact none
  · exact hf a (ho a rfl)

theorem map {o : Option α} {f : α → β} (ho : Leaves left cs o) (hf : ∀ a, left' (f a) = left a) :
    Leaves left' cs (o.map f) := by
  rintro b hb
  obtain ⟨a, ha, rfl⟩ := Option.map_eq_some_iff.mp hb
  rw [hf]
  exact ho a ha

theorem getD {o : Option (α × List Char)} {rest : List Char} (ho : Leaves Prod.snd rest o)
    (hrest : rest <:+ cs) :
    (o.map Prod.snd).getD rest <:+ cs := by
  rcases o with _ | x
  · exact hrest
  · exact (ho x rfl).trans hrest

theorem expect {o : Option α} (ho : Leaves left cs o) : Sound left depth cs (Toml.expect o) := by
  rcases o with _ | a
  · exact Sound.malformed
  · exact .ok (ho a rfl)

end Leaves

/-- What is looked up in passing leaves the text as it is. -/
theorem Sound.lookup {o : Option α} {f : α → Except Error β}
    (hf : ∀ a, Sound left' depth cs (f a)) :
    Sound left' depth cs (expect o >>= f) := by
  rcases o with _ | a
  · exact .error trivial
  · exact hf a

end Sound

/-! ### Blanks and comments -/

section Blanks

variable {depth : Nat}

theorem skipSpace_suffix (cs : List Char) : skipSpace cs <:+ cs :=
  List.dropWhile_suffix _

theorem skipComment_sound (cs : List Char) : Sound id depth cs (skipComment cs) := by
  fun_cases skipComment cs with
  | case1 => exact Sound.malformed
  | case2 rest => exact .ok ((List.dropWhile_suffix _).trans (List.suffix_cons _ _))
  | case3 => exact .ok List.suffix_rfl

theorem skipLines_sound (fuel : Nat) (cs : List Char) : Sound id depth cs (skipLines fuel cs) := by
  fun_induction skipLines fuel cs with
  | case1 => exact .ok List.suffix_rfl
  | case2 fuel cs rest heq ih =>
    have hrest : '#' :: rest <:+ cs := heq ▸ List.dropWhile_suffix _
    exact ((skipComment_sound _).mono hrest).bind fun rest' hrest' => (ih rest').mono hrest'
  | case3 => exact .ok (List.dropWhile_suffix _)

end Blanks

/-! ### Texts and keys -/

section Texts

variable {depth : Nat}

theorem until?_leaves (mark cs : List Char) : Leaves Prod.snd cs (until? mark cs) := by
  induction cs with
  | nil => exact .none
  | cons c cs ih =>
    rw [until?]
    split
    · exact .some (List.drop_suffix _ _)
    · exact (ih.mono (List.suffix_cons c cs)).map fun _ => rfl

theorem numberedChar_sound (width : Nat) (cs : List Char) :
    Sound Prod.snd depth cs (numberedChar width cs) := by
  rw [numberedChar]
  split
  · exact .error trivial
  · refine Sound.lookup fun n => ?_
    split
    · exact .ok (List.drop_suffix _ _)
    · exact Sound.malformed

theorem escape_sound (cs : List Char) : Sound Prod.snd depth cs (escape cs) := by
  fun_cases escape cs with
  | case1 rest => exact (numberedChar_sound 4 rest).mono (List.suffix_cons _ _)
  | case2 rest => exact (numberedChar_sound 8 rest).mono (List.suffix_cons _ _)
  | case3 c rest => exact Sound.lookup fun _ => .ok (List.suffix_cons _ _)
  | case4 => exact Sound.malformed

theorem basicText_sound (fuel : Nat) (cs : List Char) :
    Sound Prod.snd depth cs (basicText fuel cs) := by
  fun_induction basicText fuel cs with
  | case1 => exact Sound.malformed
  | case2 => exact Sound.malformed
  | case3 fuel cs => exact .ok (List.suffix_cons _ _)
  | case4 fuel cs hquote ih =>
    refine ((escape_sound cs).mono (List.suffix_cons _ _)).bind fun ⟨e, rest⟩ hrest => ?_
    exact ((ih rest).mono hrest).bind fun _ hrest' => .ok hrest'
  | case5 => exact Sound.malformed
  | case6 fuel c cs hquote hescape hcontrol ih =>
    exact (ih.mono (List.suffix_cons _ _)).bind fun _ hrest => .ok hrest

theorem escapedLineEnd_sound (cs : List Char) :
    Sound (Option.getD · []) depth cs (escapedLineEnd cs) := by
  rw [escapedLineEnd.eq_def]
  split
  · exact .ok List.nil_suffix
  · rename_i c cs
    split
    · exact .ok (List.dropWhile_suffix _)
    · split
      · split
        · exact .ok (a := some []) List.nil_suffix
        · rename_i rest heq
          exact .ok (a := some _) ((List.dropWhile_suffix _).trans
            (suffix_behind (skipSpace_suffix _) List.suffix_rfl heq))
        · exact Sound.malformed
      · exact .ok (a := none) List.nil_suffix

theorem basicLines_sound (fuel : Nat) (cs : List Char) :
    Sound Prod.snd depth cs (basicLines fuel cs) := by
  fun_induction basicLines fuel cs with
  | case1 => exact Sound.malformed
  | case2 => exact Sound.malformed
  | case3 fuel rest =>
    exact .ok ((List.suffix_cons _ _).trans ((List.suffix_cons _ _).trans (List.suffix_cons _ _)))
  | case4 fuel cs hclose ih => exact (ih.mono (List.suffix_cons _ _)).bind fun _ hrest => .ok hrest
  | case5 fuel cs hquote ih =>
    refine ((escapedLineEnd_sound cs).mono (List.suffix_cons _ _)).bind fun next hnext => ?_
    cases next with
    | some rest => exact (ih rest).mono hnext
    | none =>
      refine ((escape_sound cs).mono (List.suffix_cons _ _)).bind fun ⟨e, rest⟩ hrest => ?_
      exact ((ih rest).mono hrest).bind fun _ hrest' => .ok hrest'
  | case6 => exact Sound.malformed
  | case7 fuel c cs hquote hescape hcontrol ih =>
    exact (ih.mono (List.suffix_cons _ _)).bind fun _ hrest => .ok hrest

theorem literalText_sound (cs : List Char) : Sound Prod.snd depth cs (literalText cs) := by
  refine (until?_leaves _ cs).expect.bind fun ⟨s, rest⟩ hrest => ?_
  dsimp only
  split
  · exact Sound.malformed
  · exact .ok hrest

theorem literalLines_sound (cs : List Char) : Sound Prod.snd depth cs (literalLines cs) := by
  refine (until?_leaves _ cs).expect.bind fun ⟨s, rest⟩ hrest => ?_
  dsimp only
  split
  · exact Sound.malformed
  · exact .ok hrest

theorem skipFirstLineEnd_suffix (cs : List Char) : skipFirstLineEnd cs <:+ cs := by
  fun_cases skipFirstLineEnd cs with
  | case1 cs => exact List.suffix_cons _ _
  | case2 => exact List.suffix_rfl

theorem text?_sound {cs : List Char} {r : Except Error (List Char × List Char)}
    (h : text? cs = some r) :
    Sound Prod.snd depth cs r := by
  have hthree : ∀ (quote : Char) (rest : List Char),
      skipFirstLineEnd rest <:+ quote :: quote :: quote :: rest :=
    fun quote rest => (skipFirstLineEnd_suffix rest).trans ((List.suffix_cons _ _).trans
      ((List.suffix_cons _ _).trans (List.suffix_cons _ _)))
  rw [text?.eq_def] at h
  split at h
  · cases h
    exact ((basicLines_sound _ _).mono (hthree _ _)).bind fun _ hrest =>
      .ok ((List.drop_suffix _ _).trans hrest)
  · cases h
    exact (basicText_sound _ _).mono (List.suffix_cons _ _)
  · cases h
    exact ((literalLines_sound _).mono (hthree _ _)).bind fun _ hrest =>
      .ok ((List.drop_suffix _ _).trans hrest)
  · cases h
    exact (literalText_sound _).mono (List.suffix_cons _ _)
  · cases h

theorem keyPart_sound (cs : List Char) : Sound Prod.snd depth cs (keyPart cs) := by
  fun_cases keyPart cs with
  | case1 rest =>
    exact ((literalText_sound rest).mono (List.suffix_cons _ _)).bind fun _ hrest => .ok hrest
  | case2 rest =>
    exact ((basicText_sound _ rest).mono (List.suffix_cons _ _)).bind fun _ hrest => .ok hrest
  | case3 | case4 =>
    split
    · exact Sound.malformed
    · exact .ok (List.dropWhile_suffix _)

theorem keyParts_sound (fuel : Nat) (cs : List Char) :
    Sound Prod.snd depth cs (keyParts fuel cs) := by
  fun_induction keyParts fuel cs with
  | case1 => exact Sound.malformed
  | case2 fuel cs ih =>
    refine (keyPart_sound cs).bind fun ⟨part, rest⟩ hrest => ?_
    dsimp only
    split
    · rename_i rest' heq
      have hnext := (skipSpace_suffix rest').trans (suffix_behind (skipSpace_suffix _) hrest heq)
      exact ((ih rest').mono hnext).bind fun _ hrest => .ok hrest
    · exact .ok ((skipSpace_suffix rest).trans hrest)

theorem key_sound (cs : List Char) : Sound Prod.snd depth cs (key cs) :=
  keyParts_sound _ cs

end Texts

/-! ### Days and numbers -/

section Numbers

variable {depth : Nat}

theorem fixed?_leaves (width low high : Nat) (cs : List Char) :
    Leaves Prod.snd cs (fixed? width low high cs) := by
  rw [fixed?]
  dsimp only
  split
  · split
    · exact .some (List.drop_suffix _ _)
    · exact .none
  · exact .none

theorem mark?_leaves (c : Char) (cs : List Char) : Leaves id cs (mark? c cs) := by
  fun_cases mark? c cs with
  | case1 => exact .none
  | case2 cs => exact .some (List.suffix_cons _ _)
  | case3 => exact .none

/-- A number behind a mark. -/
theorem Leaves.marked {α : Type} {left : α → List Char} {cs cs' : List Char} {c : Char}
    {width low high : Nat}
    {f : Nat × List Char → Option α} (h : cs' <:+ cs)
    (hf : ∀ n rest, rest <:+ cs → Leaves left cs (f (n, rest))) :
    Leaves left cs (mark? c cs' >>= fun rest => fixed? width low high rest >>= f) := by
  refine ((mark?_leaves c cs').mono h).bind fun rest hrest => ?_
  exact ((fixed?_leaves width low high rest).mono hrest).bind fun ⟨n, rest'⟩ hrest' =>
    hf n rest' hrest'

theorem fraction_suffix (cs : List Char) : (fraction cs).2 <:+ cs := by
  rw [fraction.eq_def]
  split
  · split
    · exact List.suffix_rfl
    · exact (List.dropWhile_suffix _).trans (List.suffix_cons _ _)
  · exact List.suffix_rfl

theorem clock?_leaves (cs : List Char) : Leaves Prod.snd cs (clock? cs) := by
  refine (fixed?_leaves _ _ _ cs).bind fun ⟨hour, cs₁⟩ h₁ => ?_
  refine .marked h₁ fun minute cs₂ h₂ => .marked h₂ fun second cs₃ h₃ => ?_
  exact .some ((fraction_suffix cs₃).trans h₃)

theorem date?_leaves (cs : List Char) : Leaves Prod.snd cs (date? cs) := by
  refine (fixed?_leaves _ _ _ cs).bind fun ⟨year, cs₁⟩ h₁ => ?_
  exact .marked h₁ fun month cs₂ h₂ => .marked h₂ fun day cs₃ h₃ => .some h₃

theorem offset_suffix (cs : List Char) : (offset cs).2 <:+ cs := by
  dsimp only [offset]
  split
  · rename_i minutes rest heq
    suffices h : Leaves Prod.snd cs _ from h (minutes, rest) heq
    split
    · exact .some (List.suffix_cons _ _)
    · exact .some (List.suffix_cons _ _)
    · refine ((fixed?_leaves _ _ _ _).mono (List.suffix_cons _ _)).bind fun ⟨hour, cs₁⟩ h₁ => ?_
      exact .marked h₁ fun minute cs₂ h₂ => .some h₂
    · refine ((fixed?_leaves _ _ _ _).mono (List.suffix_cons _ _)).bind fun ⟨hour, cs₁⟩ h₁ => ?_
      exact .marked h₁ fun minute cs₂ h₂ => .some h₂
    · exact .none
  · exact List.suffix_rfl

theorem moment?_sound {cs : List Char} {r : Except Error (Value × List Char)}
    (h : moment? cs = some r) :
    Sound Prod.snd depth cs r := by
  obtain ⟨⟨d, rest⟩, hdate, h⟩ := Option.bind_eq_some_iff.mp h
  have hrest := date?_leaves cs _ hdate
  dsimp only at h
  split at h
  · split at h
    · cases h
      exact .ok hrest
    · rename_i t rest' htime
      cases h
      refine .ok ((offset_suffix rest').trans ?_)
      suffices h : Leaves Prod.snd rest _ from (h _ htime).trans hrest
      split
      · rename_i c rest
        split
        · exact (clock?_leaves rest).mono (List.suffix_cons c rest)
        · exact .none
      · exact .none
  · cases h
    exact Sound.malformed

/-- A text begins with a numeral, here without its underscores, and goes on with `rest`. -/
def Begins (isDigit : Char → Bool) (cs digits rest : List Char) : Prop :=
  ∃ numeral, cs = numeral ++ rest ∧ (∀ c ∈ numeral, isDigit c = true ∨ c = '_') ∧
    (isDigit '_' = false → numeral.countP isDigit = digits.length)

theorem begins_nil (isDigit : Char → Bool) (cs : List Char) : Begins isDigit cs [] cs :=
  ⟨[], rfl, by simp, fun _ => rfl⟩

theorem Begins.digit {isDigit : Char → Bool} {cs digits rest : List Char}
    (h : Begins isDigit cs digits rest)
    {c : Char} (hc : isDigit c = true) : Begins isDigit (c :: cs) (c :: digits) rest := by
  obtain ⟨numeral, rfl, hall, hcount⟩ := h
  refine ⟨c :: numeral, rfl, List.forall_mem_cons.mpr ⟨.inl hc, hall⟩, fun hmark => ?_⟩
  rw [List.countP_cons_of_pos hc, hcount hmark, List.length_cons]

theorem Begins.underscore {isDigit : Char → Bool} {cs digits rest : List Char}
    (h : Begins isDigit cs digits rest) :
    Begins isDigit ('_' :: cs) digits rest := by
  obtain ⟨numeral, rfl, hall, hcount⟩ := h
  refine ⟨'_' :: numeral, rfl, List.forall_mem_cons.mpr ⟨.inr rfl, hall⟩, fun hmark => ?_⟩
  rw [List.countP_cons_of_neg (Bool.eq_false_iff.mp hmark), hcount hmark]

theorem digitRun_begins (isDigit : Char → Bool) (cs : List Char) :
    Begins isDigit cs (digitRun isDigit cs).1 (digitRun isDigit cs).2 := by
  fun_induction digitRun isDigit cs with
  | case1 c cs hc digits rest heq ih =>
    rw [heq] at ih
    exact (ih.digit hc).underscore
  | case2 => exact begins_nil _ _
  | case3 c cs hmark hc digits rest heq ih =>
    rw [heq] at ih
    exact ih.digit hc
  | case4 => exact begins_nil _ _
  | case5 => exact begins_nil _ _

theorem begins_of_digits? {isDigit : Char → Bool} {cs digits rest : List Char}
    (h : digits? isDigit cs = some (digits, rest)) : Begins isDigit cs digits rest := by
  rw [digits?.eq_def] at h
  split at h
  · cases h
  · split at h
    · cases h
    · split at h
      · cases h
      · rename_i c cs _ _ _
        have hrun := digitRun_begins isDigit (c :: cs)
        rw [Option.some.inj h] at hrun
        exact hrun

theorem digits?_leaves (isDigit : Char → Bool) (cs : List Char) :
    Leaves Prod.snd cs (digits? isDigit cs) := by
  rintro ⟨digits, rest⟩ h
  obtain ⟨numeral, rfl, -⟩ := begins_of_digits? h
  exact List.suffix_append _ _

theorem begins_of_whole? {cs digits rest : List Char} (h : whole? cs = some (digits, rest)) :
    Begins isDigit cs digits rest := by
  rw [whole?.eq_def] at h
  split at h
  · cases h
    exact (begins_nil isDigit _).digit (by decide)
  · exact begins_of_digits? h

theorem based?_leaves (cs : List Char) : Leaves Prod.snd cs (based? cs) := by
  rw [based?.eq_def]
  split
  · exact ((digits?_leaves _ _).mono ((List.suffix_cons _ _).trans (List.suffix_cons _ _))).map
      fun _ => rfl
  · exact ((digits?_leaves _ _).mono ((List.suffix_cons _ _).trans (List.suffix_cons _ _))).map
      fun _ => rfl
  · exact ((digits?_leaves _ _).mono ((List.suffix_cons _ _).trans (List.suffix_cons _ _))).map
      fun _ => rfl
  · exact .none

theorem sign_suffix (cs : List Char) : (sign cs).2 <:+ cs := by
  fun_cases sign cs with
  | case1 rest => exact List.suffix_cons _ _
  | case2 rest => exact List.suffix_cons _ _
  | case3 => exact List.suffix_rfl

theorem decimals?_leaves (cs : List Char) : Leaves Prod.snd cs (decimals? cs) := by
  fun_cases decimals? cs with
  | case1 rest => exact (digits?_leaves _ rest).mono (List.suffix_cons _ _)
  | case2 => exact .none

theorem exponent?_leaves (cs : List Char) : Leaves Prod.snd cs (exponent? cs) := by
  rw [exponent?.eq_def]
  split
  · split
    · rename_i c rest hc
      exact ((digits?_leaves _ _).mono ((sign_suffix rest).trans (List.suffix_cons _ _))).map
        fun _ => rfl
    · exact .none
  · exact .none

/-- Only a whole number of too many digits is refused. -/
theorem decimal?_sound {cs : List Char} {r : Except Error (Value × List Char)}
    (h : decimal? cs = some r) :
    Sound Prod.snd depth cs r := by
  rw [decimal?] at h
  have hsign := sign_suffix cs
  generalize sign cs = signed at h hsign
  obtain ⟨negative, digits⟩ := signed
  obtain ⟨⟨whole, rest⟩, hwhole, hr⟩ := Option.bind_eq_some_iff.mp h
  obtain ⟨numeral, rfl, hall, hcount⟩ := begins_of_whole? hwhole
  have hrest : rest <:+ cs := (List.suffix_append _ _).trans hsign
  have hleft := (exponent?_leaves _).getD ((decimals?_leaves rest).getD hrest)
  dsimp only at hr
  split at hr
  · split at hr
    · rename_i hlong
      cases hr
      refine .error ⟨hlong, numeral, ?_, hcount (by decide), hall⟩
      exact (List.prefix_append numeral rest).isInfix.trans hsign.isInfix
    · cases hr
      exact .ok hleft
  · cases hr
    exact .ok hleft

theorem scalar_sound (cs : List Char) : Sound Prod.snd depth cs (scalar cs) := by
  rw [scalar]
  split
  · rename_i result heq
    exact (text?_sound heq).bind fun _ hrest => .ok hrest
  · split
    · exact .ok (List.drop_suffix _ _)
    · split
      · rename_i heq
        exact moment?_sound heq
      · split
        · rename_i heq
          exact .ok (clock?_leaves cs _ heq)
        · split
          · rename_i heq
            exact .ok (based?_leaves cs _ heq)
          · rcases hdecimal : decimal? cs with _ | r
            · exact Sound.malformed
            · exact decimal?_sound hdecimal

end Numbers

/-! ### Values -/

section Values

variable {fuel depth : Nat} {cs : List Char}

/-- The three readers of values are sound when they are allowed this many steps. -/
structure SoundAt (fuel : Nat) : Prop where
  value : ∀ depth cs, Sound Prod.snd depth cs (value fuel depth cs)
  items : ∀ depth cs, Sound Prod.snd depth cs (items fuel depth cs)
  fields : ∀ depth closed t cs, Sound Prod.snd depth cs (fields fuel depth closed t cs)

theorem value_sound (ih : ∀ n < fuel, SoundAt n) :
    Sound Prod.snd depth cs (value fuel depth cs) := by
  fun_cases value fuel depth cs with
  | case1 => exact Sound.malformed
  -- the nesting is used up, and there is one opening more
  | case2 n depth rest hdepth => exact .tooDeep rfl (Nat.lt_of_lt_of_le hdepth (by decide)) rfl
  | case3 n depth rest hdepth =>
    have hlines : Sound id depth rest (skipLines rest.length rest) := skipLines_sound _ rest
    rcases hnext : skipLines rest.length rest with e | next
    · exact .error ((hlines.concerns hnext).mono (List.suffix_cons _ _))
    · exact (((ih n n.lt_succ_self).items _ next).enter (by decide) rfl (hlines.rest hnext)).bind
        fun _ hrest => .ok hrest
  | case4 n depth rest hdepth => exact .tooDeep rfl (Nat.lt_of_lt_of_le hdepth (by decide)) rfl
  | case5 n depth rest hdepth rest' heq =>
    exact .ok
      ((suffix_behind (skipSpace_suffix _) List.suffix_rfl heq).trans (List.suffix_cons _ _))
  | case6 n depth rest hdepth hopen =>
    exact (((ih n n.lt_succ_self).fields _ _ _ _).enter (by decide) rfl
      (skipSpace_suffix rest)).bind
      fun _ hrest => .ok hrest
  | case7 => exact scalar_sound _

theorem items_sound (ih : ∀ n < fuel, SoundAt n) :
    Sound Prod.snd depth cs (items fuel depth cs) := by
  fun_cases items fuel depth cs with
  | case1 => exact Sound.malformed
  | case2 n rest => exact .ok (List.suffix_cons _ _)
  | case3 n hclose =>
    have ih := ih n n.lt_succ_self
    refine (ih.value depth cs).bind fun ⟨v, rest⟩ hrest => ?_
    refine ((skipLines_sound _ rest).mono hrest).bind fun next hnext => ?_
    -- the list ends, or another item follows
    split
    · exact .ok ((List.suffix_cons _ _).trans hnext)
    · rename_i next
      refine ((skipLines_sound _ next).mono ((List.suffix_cons _ _).trans hnext)).bind
        fun next' hnext' => ?_
      exact ((ih.items depth next').mono hnext').bind fun _ hrest => .ok hrest
    · exact Sound.malformed

theorem fields_sound {closed : List Key} {t : Fields} (ih : ∀ n < fuel, SoundAt n) :
    Sound Prod.snd depth cs (fields fuel depth closed t cs) := by
  fun_cases fields fuel depth closed t cs with
  | case1 => exact Sound.malformed
  | case2 n =>
    have ih := ih n n.lt_succ_self
    refine (key_sound cs).bind fun ⟨k, rest⟩ hrest => ?_
    dsimp only
    -- only a value may follow the key
    split
    · rename_i rest'
      have hnext := (skipSpace_suffix rest').trans ((List.suffix_cons _ _).trans hrest)
      refine ((ih.value depth _).mono hnext).bind fun ⟨v, rest⟩ hrest => ?_
      dsimp only
      split
      · exact .error trivial
      · refine Sound.lookup fun t => ?_
        -- the table ends, or another pair follows
        split
        · rename_i heq
          exact .ok (suffix_behind (skipSpace_suffix _) hrest heq)
        · rename_i rest' heq
          exact (ih.fields depth _ _ _).mono
            ((skipSpace_suffix rest').trans (suffix_behind (skipSpace_suffix _) hrest heq))
        · exact Sound.malformed
    · exact Sound.malformed

theorem soundAt (fuel : Nat) : SoundAt fuel := by
  induction fuel using Nat.strong_induction_on with
  | h fuel ih =>
    exact ⟨fun _ _ => value_sound ih, fun _ _ => items_sound ih, fun _ _ _ _ => fields_sound ih⟩

end Values

/-! ### Documents -/

section Documents

variable {depth : Nat}

theorem openTable_sound (s : State) (cs : List Char) :
    Sound Prod.snd depth cs (openTable s cs) := by
  refine ((key_sound _).mono (skipSpace_suffix cs)).bind fun ⟨k, rest⟩ hrest => ?_
  dsimp only
  split
  · exact .error trivial
  · refine Sound.lookup fun t => ?_
    split
    · exact .ok ((List.suffix_cons _ _).trans hrest)
    · exact Sound.malformed

theorem openListed_sound (s : State) (cs : List Char) :
    Sound Prod.snd depth cs (openListed s cs) := by
  refine ((key_sound _).mono (skipSpace_suffix cs)).bind fun ⟨k, rest⟩ hrest => ?_
  dsimp only
  split
  · exact .error trivial
  · refine Sound.lookup fun t => ?_
    split
    · exact .ok ((List.suffix_cons _ _).trans ((List.suffix_cons _ _).trans hrest))
    · exact Sound.malformed

theorem pair_sound (s : State) (cs : List Char) : Sound Prod.snd depthLimit cs (pair s cs) := by
  refine (key_sound cs).bind fun ⟨k, rest⟩ hrest => ?_
  dsimp only
  split
  · rename_i rest'
    have hnext := (skipSpace_suffix rest').trans ((List.suffix_cons _ _).trans hrest)
    refine (((soundAt _).value depthLimit _).mono hnext).bind fun ⟨v, rest⟩ hrest => ?_
    dsimp only
    split
    · exact .error trivial
    · split
      · exact .error trivial
      · exact Sound.lookup fun t => .ok hrest
  · exact Sound.malformed

theorem endOfLine_sound (cs : List Char) : Sound id depth cs (endOfLine cs) := by
  refine ((skipComment_sound _).mono (skipSpace_suffix cs)).bind fun rest hrest => ?_
  split
  · exact .ok List.nil_suffix
  · exact .ok ((List.suffix_cons _ _).trans hrest)
  · exact Sound.malformed

/-- Statements that follow on a sound one, which leave nothing to be read. -/
theorem Sound.line {fuel : Nat} {cs : List Char} {r : Except Error (State × List Char)}
    (hr : Sound Prod.snd depthLimit cs r)
    (ih : ∀ s rest, Sound (fun _ => []) depthLimit rest (statements fuel s rest)) :
    Sound (fun _ => []) depthLimit cs (r >>= fun x => endOfLine x.2 >>= statements fuel x.1) := by
  refine hr.bind fun ⟨s, rest⟩ hrest => ?_
  exact ((endOfLine_sound rest).mono hrest).bind fun next hnext => (ih s next).mono hnext

theorem statements_sound (fuel : Nat) (s : State) (cs : List Char) :
    Sound (fun _ => []) depthLimit cs (statements fuel s cs) := by
  fun_induction statements fuel s cs with
  | case1 => exact Sound.malformed
  | case2 => exact .ok List.nil_suffix
  | case3 fuel s cs rest heq ih =>
    exact ih.mono (suffix_behind (skipSpace_suffix _) List.suffix_rfl heq)
  | case4 fuel s cs rest heq ih =>
    have hcomment : '#' :: rest <:+ cs := heq ▸ skipSpace_suffix cs
    exact ((endOfLine_sound _).mono hcomment).bind fun next hnext => (ih next).mono hnext
  | case5 fuel s cs rest heq ih =>
    have hrest :=
      (List.suffix_cons _ _).trans (suffix_behind (skipSpace_suffix _) List.suffix_rfl heq)
    exact Sound.line ((openListed_sound s rest).mono hrest) ih
  | case6 fuel s cs rest hone heq ih =>
    exact Sound.line
      ((openTable_sound s rest).mono (suffix_behind (skipSpace_suffix _) List.suffix_rfl heq)) ih
  | case7 fuel s cs hnil hline hcomment hlisted htable ih =>
    exact Sound.line ((pair_sound s _).mono (skipSpace_suffix cs)) ih

end Documents

/-- Every error of a document concerns its text. -/
theorem concerns_of_read_eq_error {source : List Char} {e : Error} (h : read source = .error e) :
    account.Concerns depthLimit (joinLineEnds source) e := by
  rcases bind_eq_error.mp h with hstatements | ⟨s, -, hs⟩
  · exact (statements_sound _ _ _).concerns hstatements
  · cases hs

end BorrowGraph.Toml
