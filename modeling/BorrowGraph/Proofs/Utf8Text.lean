/-
The bytes of a text.

The bytes that a text is written in are read as this text (`Utf8.decode_encode`).  Characters
are taken one at a time: `next_utf8EncodeChar` says that the bytes of a character are
recognised whatever follows them, with one case for each number of bytes.  Second bytes are
where care is needed: overlong forms, surrogates and codes beyond the last one are refused, and
no character is written in such a way.
-/
import BorrowGraph.Utf8
import Mathlib.Tactic.SplitIfs

namespace BorrowGraph.Utf8

/-! ### Bytes as lists -/

theorem toList_loop (bytes : ByteArray) (i : Nat) (r : List UInt8) :
    ByteArray.toList.loop bytes i r = r.reverse ++ bytes.data.toList.drop i := by
  by_cases hi : i < bytes.size
  · have hdrop : bytes.data.toList.drop i = bytes.get! i :: bytes.data.toList.drop (i + 1) := by
      have hlength : i < bytes.data.toList.length := hi
      rw [List.drop_eq_getElem_cons hlength]
      congr 1
      show _ = bytes.data[i]!
      rw [getElem!_pos bytes.data i hi, Array.getElem_toList]
    rw [ByteArray.toList.loop, if_pos hi, toList_loop bytes (i + 1), hdrop, List.reverse_cons,
      List.append_assoc]
    rfl
  · have hlength : bytes.data.toList.length ≤ i := Nat.le_of_not_lt hi
    rw [ByteArray.toList.loop, if_neg hi, List.drop_eq_nil_of_le hlength, List.append_nil]
termination_by bytes.size - i

/-- The bytes of a text are those of its characters. -/
theorem encode_eq (s : String) : encode s = s.toList.flatMap String.utf8EncodeChar := by
  rw [encode, String.toUTF8_eq_toByteArray, ← String.utf8Encode_toList, ByteArray.toList,
    toList_loop, List.utf8Encode, List.toList_data_toByteArray]
  rfl

/-! ### One character -/

theorem next_one {n : Nat} (hn : n ≤ 127) (rest : List UInt8) :
    next (UInt8.ofNat n) rest = .scalar (Char.ofNat n) 1 := by
  have hbyte : (UInt8.ofNat n).toNat = n := by
    rw [UInt8.toNat_ofNat']
    omega
  unfold next
  rw [hbyte, if_pos (by omega)]

theorem isContinuation_ofNat (k : Nat) : isContinuation (UInt8.ofNat (k % 64 + 128)) = true := by
  rw [isContinuation, UInt8.toNat_ofNat']
  simp only [Bool.and_eq_true, decide_eq_true_eq]
  omega

theorem payload_ofNat (k : Nat) : payload (UInt8.ofNat (k % 64 + 128)) = k % 64 := by
  rw [payload, UInt8.toNat_ofNat']
  omega

theorem next_two {n : Nat} (hlow : 127 < n) (hhigh : n ≤ 2047) (rest : List UInt8) :
    next (UInt8.ofNat (n / 64 % 32 + 192)) (UInt8.ofNat (n % 64 + 128) :: rest) =
      .scalar (Char.ofNat n) 2 := by
  have hbyte : (UInt8.ofNat (n / 64 % 32 + 192)).toNat = n / 64 + 192 := by
    rw [UInt8.toNat_ofNat']
    omega
  have hvalue : (n / 64 + 192 - 192) * 64 + n % 64 = n := by omega
  unfold next
  simp only [hbyte, isContinuation_ofNat, payload_ofNat, hvalue]
  rw [if_neg (by omega), if_neg (by omega), if_pos (by omega)]
  rfl

theorem secondAllowed_iff {first second : UInt8} :
    secondAllowed first second = true ↔
      (0x80 ≤ second.toNat ∧ second.toNat ≤ 0xbf) ∧
      (first.toNat = 0xe0 → 0xa0 ≤ second.toNat) ∧ (first.toNat = 0xf0 → 0x90 ≤ second.toNat) ∧
      (first.toNat = 0xed → second.toNat ≤ 0x9f) ∧ (first.toNat = 0xf4 → second.toNat ≤ 0x8f) := by
  simp only [secondAllowed, Bool.and_eq_true, decide_eq_true_eq]
  split_ifs <;> omega

theorem next_three {n : Nat} (hlow : 2047 < n) (hhigh : n ≤ 65535)
    (hscalar : n < 0xd800 ∨ 0xdfff < n) (rest : List UInt8) :
    next (UInt8.ofNat (n / 4096 % 16 + 224))
      (UInt8.ofNat (n / 64 % 64 + 128) :: UInt8.ofNat (n % 64 + 128) :: rest) =
      .scalar (Char.ofNat n) 3 := by
  have hbyte : (UInt8.ofNat (n / 4096 % 16 + 224)).toNat = n / 4096 + 224 := by
    rw [UInt8.toNat_ofNat']
    omega
  have hsecond : (UInt8.ofNat (n / 64 % 64 + 128)).toNat = n / 64 % 64 + 128 := by
    rw [UInt8.toNat_ofNat']
    omega
  have hallowed : secondAllowed (UInt8.ofNat (n / 4096 % 16 + 224))
      (UInt8.ofNat (n / 64 % 64 + 128)) = true := by
    -- The bounds keep overlong forms out, and no surrogate is a character.
    rw [secondAllowed_iff, hbyte, hsecond]
    omega
  have hvalue : (n / 4096 + 224 - 224) * 4096 + n / 64 % 64 * 64 + n % 64 = n := by omega
  unfold next
  simp only [hbyte, hallowed, isContinuation_ofNat, payload_ofNat, hvalue]
  rw [if_neg (by omega), if_neg (by omega), if_neg (by omega), if_pos (by omega)]
  rfl

theorem next_four {n : Nat} (hlow : 65535 < n) (hhigh : n < 0x110000) (rest : List UInt8) :
    next (UInt8.ofNat (n / 262144 % 8 + 240))
      (UInt8.ofNat (n / 4096 % 64 + 128) :: UInt8.ofNat (n / 64 % 64 + 128) ::
        UInt8.ofNat (n % 64 + 128) :: rest) =
      .scalar (Char.ofNat n) 4 := by
  have hbyte : (UInt8.ofNat (n / 262144 % 8 + 240)).toNat = n / 262144 + 240 := by
    rw [UInt8.toNat_ofNat']
    omega
  have hsecond : (UInt8.ofNat (n / 4096 % 64 + 128)).toNat = n / 4096 % 64 + 128 := by
    rw [UInt8.toNat_ofNat']
    omega
  have hallowed : secondAllowed (UInt8.ofNat (n / 262144 % 8 + 240))
      (UInt8.ofNat (n / 4096 % 64 + 128)) = true := by
    rw [secondAllowed_iff, hbyte, hsecond]
    omega
  have hvalue : (n / 262144 + 240 - 240) * 262144 + n / 4096 % 64 * 4096 + n / 64 % 64 * 64 +
      n % 64 = n := by omega
  unfold next
  simp only [hbyte, hallowed, isContinuation_ofNat, payload_ofNat, hvalue]
  rw [if_neg (by omega), if_neg (by omega), if_neg (by omega), if_neg (by omega),
    if_pos (by omega)]
  rfl

/-- The bytes of a character are recognised, whatever follows. -/
theorem next_utf8EncodeChar (c : Char) :
    ∃ b bs, String.utf8EncodeChar c = b :: bs ∧
      ∀ rest, next b (bs ++ rest) = .scalar c (bs.length + 1) := by
  have hc : Char.ofNat c.val.toNat = c := Char.ofNat_toNat c
  have hvalid : c.val.toNat < 0xd800 ∨ 0xdfff < c.val.toNat ∧ c.val.toNat < 0x110000 := c.valid
  rw [String.utf8EncodeChar]
  split
  · rename_i hone
    exact ⟨_, [], rfl, fun rest => by rw [List.nil_append, next_one hone, hc]; rfl⟩
  split
  · rename_i hone htwo
    exact ⟨_, [_], rfl, fun rest => by
      rw [List.singleton_append, next_two (Nat.lt_of_not_le hone) htwo, hc]; rfl⟩
  split
  · rename_i hone htwo hthree
    exact ⟨_, [_, _], rfl, fun rest => by
      rw [List.cons_append, List.singleton_append,
        next_three (Nat.lt_of_not_le htwo) hthree (hvalid.imp_right And.left), hc]; rfl⟩
  · rename_i hone htwo hthree
    have hlast : c.val.toNat < 0x110000 := by omega
    exact ⟨_, [_, _, _], rfl, fun rest => by
      rw [List.cons_append, List.cons_append, List.singleton_append,
        next_four (Nat.lt_of_not_le hthree) hlast, hc]; rfl⟩

/-! ### Texts -/

theorem decodeFrom_skip (bs rest : List UInt8) (pos : Nat) :
    decodeFrom bs.length pos (bs ++ rest) = decodeFrom 0 (pos + bs.length) rest := by
  induction bs generalizing pos with
  | nil => rfl
  | cons b bs ih =>
    rw [List.length_cons, List.cons_append, decodeFrom, ih, Nat.add_right_comm, Nat.add_assoc]

theorem decodeFrom_encode (cs : List Char) (pos : Nat) :
    decodeFrom 0 pos (cs.flatMap String.utf8EncodeChar) = ⟨cs, none, []⟩ := by
  induction cs generalizing pos with
  | nil => rfl
  | cons c cs ih =>
    obtain ⟨b, bs, hbytes, hnext⟩ := next_utf8EncodeChar c
    rw [List.flatMap_cons, hbytes, List.cons_append, decodeFrom, hnext]
    simp only [Nat.add_sub_cancel]
    rw [decodeFrom_skip, ih]

/-- What a text is written in is read as the text. -/
theorem decode_encode (s : String) : decode (encode s) = .ok s.toList := by
  rw [encode_eq, decode, decodeFrom_encode]

end BorrowGraph.Utf8
