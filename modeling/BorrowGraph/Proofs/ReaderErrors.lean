/-
What the errors of a reader say about its text.

The finding of an error is that the text is malformed, that a number has too many digits, or
that values are nested too deeply; an `Account` tells which.  It concerns a text if the text
has such a number, or opens lists and tables often enough for such a nesting
(`Account.Concerns`).  A reader is sound if it leaves an end of its text, or fails with an
error that concerns the text (`Sound`).  This is kept by putting readers one behind the other,
and behind the opening of a list or a table, where less nesting is allowed (`Sound.enter`).
-/
import Mathlib.Data.List.Infix
import Mathlib.Data.List.TakeWhile

namespace BorrowGraph

/-- How many characters of a text open a list or a table. -/
def Json.openings (cs : List Char) : Nat :=
  cs.countP fun c => c == '[' || c == '\x7b'

theorem Json.openings_mono {cs cs' : List Char} (h : cs' <:+ cs) : openings cs' ≤ openings cs :=
  h.sublist.countP_le

open Json (openings openings_mono)

/-- What an error finds. -/
inductive Finding where
  | malformed
  | tooLong (digits : Nat)
  | tooDeep

/-- How the errors of a reader are to be taken. -/
structure Account (ε : Type) where
  finding : ε → Finding
  /-- So many digits are too many. -/
  IsLong : Nat → Prop
  /-- A text has a numeral with so many digits. -/
  HasNumeral : List Char → Nat → Prop
  hasNumeral_mono : ∀ {cs cs' n}, HasNumeral cs' n → cs' <:+ cs → HasNumeral cs n
  /-- The nesting that a list or a table uses up at most. -/
  weight : Nat

section Account

variable {ε α β : Type} {account : Account ε} {depth : Nat} {cs cs' : List Char}

/-- A finding holds of a text in which values may be nested as deeply as `depth`. -/
def Finding.Holds (account : Account ε) (depth : Nat) (cs : List Char) : Finding → Prop
  | .malformed => True
  | .tooLong n => account.IsLong n ∧ account.HasNumeral cs n
  | .tooDeep => depth < account.weight * openings cs

/-- An error concerns a text in which values may be nested as deeply as `depth`. -/
def Account.Concerns (account : Account ε) (depth : Nat) (cs : List Char) (e : ε) : Prop :=
  (account.finding e).Holds account depth cs

theorem Finding.Holds.mono {found : Finding} (hfound : found.Holds account depth cs')
    (h : cs' <:+ cs) :
    found.Holds account depth cs := by
  cases found with
  | malformed => trivial
  | tooLong n => exact ⟨hfound.1, account.hasNumeral_mono hfound.2 h⟩
  | tooDeep => exact Nat.lt_of_lt_of_le hfound (Nat.mul_le_mul_left _ (openings_mono h))

/-- What is found behind the opening of a list or a table, where less nesting is allowed, holds
before it. -/
theorem Finding.Holds.enter {found : Finding} {c : Char} {cost : Nat}
    (hfound : found.Holds account (depth - cost) cs') (hcost : cost ≤ account.weight)
    (hc : (c == '[' || c == '\x7b') = true) (h : cs' <:+ cs) :
    found.Holds account depth (c :: cs) := by
  cases found with
  | malformed => trivial
  | tooLong n =>
    exact ⟨hfound.1, account.hasNumeral_mono hfound.2 (h.trans (List.suffix_cons c cs))⟩
  | tooDeep =>
    have hcons : openings (c :: cs) = openings cs + 1 := List.countP_cons_of_pos hc
    calc depth ≤ (depth - cost) + cost := by omega
      _ < account.weight * openings cs' + cost := Nat.add_lt_add_right hfound cost
      _ ≤ account.weight * openings cs + account.weight :=
        Nat.add_le_add (Nat.mul_le_mul_left _ (openings_mono h)) hcost
      _ = account.weight * openings (c :: cs) := by rw [hcons, Nat.mul_succ]

/-- A reader, of whose result `left` is still to be read, leaves an end of its text, or fails
with an error that concerns the text. -/
structure Sound (left : α → List Char) (account : Account ε) (depth : Nat) (cs : List Char)
    (r : Except ε α) : Prop where
  rest : ∀ {a}, r = .ok a → left a <:+ cs
  concerns : ∀ {e}, r = .error e → account.Concerns depth cs e

namespace Sound

variable {left : α → List Char} {left' : β → List Char}

theorem mono {r : Except ε α} (hr : Sound left account depth cs' r) (h : cs' <:+ cs) :
    Sound left account depth cs r :=
  ⟨fun heq => (hr.rest heq).trans h, fun heq => (hr.concerns heq).mono h⟩

theorem ok {a : α} (h : left a <:+ cs) : Sound left account depth cs (.ok a) := by
  refine ⟨fun heq => ?_, fun heq => ?_⟩
  · cases heq
    exact h
  · cases heq

theorem error {e : ε} (h : account.Concerns depth cs e) :
    Sound left account depth cs (.error e) := by
  refine ⟨fun heq => ?_, fun heq => ?_⟩
  · cases heq
  · cases heq
    exact h

theorem bind {x : Except ε α} {f : α → Except ε β} (hx : Sound left account depth cs x)
    (hf : ∀ a, left a <:+ cs → Sound left' account depth cs (f a)) :
    Sound left' account depth cs (x >>= f) := by
  rcases x with e | a
  · exact error (hx.concerns rfl)
  · exact hf a (hx.rest rfl)

theorem enter {r : Except ε α} {c : Char} {cost : Nat}
    (hr : Sound left account (depth - cost) cs' r)
    (hcost : cost ≤ account.weight) (hc : (c == '[' || c == '\x7b') = true) (h : cs' <:+ cs) :
    Sound left account depth (c :: cs) r :=
  ⟨fun heq => (hr.rest heq).trans (h.trans (List.suffix_cons c cs)),
    fun heq => (hr.concerns heq).enter hcost hc h⟩

/-- At the opening of a list or a table the nesting may be used up. -/
theorem tooDeep {e : ε} {c : Char} (he : account.finding e = .tooDeep)
    (hdepth : depth < account.weight)
    (hc : (c == '[' || c == '\x7b') = true) : Sound left account depth (c :: cs) (.error e) := by
  have hopen : 0 < openings (c :: cs) := List.countP_pos_iff.mpr ⟨c, List.mem_cons_self, hc⟩
  refine error ?_
  rw [Account.Concerns, he]
  exact Nat.lt_of_lt_of_le hdepth (Nat.le_mul_of_pos_right _ hopen)

end Sound

/-- What stands behind a mark, with blanks before it, is an end of the text too. -/
theorem suffix_behind {c : Char} {skipped rest rest' : List Char} (hskipped : skipped <:+ rest)
    (hrest : rest <:+ cs) (h : skipped = c :: rest') : rest' <:+ cs :=
  ((List.suffix_cons c rest').trans (h ▸ hskipped)).trans hrest

end Account
end BorrowGraph
