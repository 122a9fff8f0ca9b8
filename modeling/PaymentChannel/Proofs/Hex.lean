import PaymentChannel.Hex

/-! Hexadecimal text is read in either case and written in one. A text is read as a byte string
exactly where it is what the byte string is written as, once its letters are lower case and one
leading `0x` is left out; so a byte string has one text, up to these two. -/
namespace PaymentChannel.Hex

private theorem digit_of_nibble : ∀ v < 256, ∀ n ∈ nibble (UInt8.ofNat v),
    v < 128 ∧ n < 16 ∧ (Char.ofNat v).toLower = digit n := by
  decide +kernel

private theorem nibble_of_digit : ∀ v < 128, ∀ n < 16,
    (Char.ofNat v).toLower = digit n → nibble (UInt8.ofNat v) = some n := by
  decide +kernel

private theorem digit_lt : ∀ n < 16, (digit n).toNat < 128 := by decide

private theorem encodeChar_of_lt {c : Char} (ascii : c.toNat < 128) :
    String.utf8EncodeChar c = [UInt8.ofNat c.toNat] := by
  rw [String.utf8EncodeChar]
  exact if_pos (Nat.le_of_lt_succ ascii)

private theorem encodeChar_of_le {c : Char} (long : 128 ≤ c.toNat) :
    ∃ first others, String.utf8EncodeChar c = first :: others ∧ 128 ≤ first.toNat := by
  have above : ¬ c.val.toNat ≤ 0x7f := Nat.not_le.mpr long
  rw [String.utf8EncodeChar, if_neg above]
  split
  · exact ⟨_, _, rfl, by rw [UInt8.toNat_ofNat']; omega⟩
  · split
    · exact ⟨_, _, rfl, by rw [UInt8.toNat_ofNat']; omega⟩
    · exact ⟨_, _, rfl, by rw [UInt8.toNat_ofNat']; omega⟩

private theorem nibble_lt {b : UInt8} {n : Nat} (value : nibble b = some n) :
    b.toNat < 128 ∧ n < 16 ∧ (Char.ofNat b.toNat).toLower = digit n :=
  digit_of_nibble b.toNat b.toNat_lt n (by rw [UInt8.ofNat_toNat, value]; rfl)

/-- Where a digit stands first, it is a character of its own: no byte of a longer one is a digit. -/
theorem char_of_nibble {chars : List Char} {b : UInt8} {rest : Bytes} {n : Nat}
    (front : b :: rest = chars.flatMap String.utf8EncodeChar) (value : nibble b = some n) :
    ∃ c others, chars = c :: others ∧ c.toLower = digit n ∧
      rest = others.flatMap String.utf8EncodeChar := by
  obtain ⟨low, -, lower⟩ := nibble_lt value
  cases chars with
  | nil => cases front
  | cons c others =>
    rw [List.flatMap_cons] at front
    by_cases ascii : c.toNat < 128
    · rw [encodeChar_of_lt ascii, List.singleton_append] at front
      obtain ⟨rfl, rfl⟩ := List.cons.inj front
      rw [UInt8.toNat_ofNat_of_lt' (Nat.lt_trans ascii (by decide)), Char.ofNat_toNat] at lower
      exact ⟨c, others, rfl, lower, rfl⟩
    · obtain ⟨first, more, encoded, high⟩ := encodeChar_of_le (Nat.not_lt.mp ascii)
      rw [encoded, List.cons_append] at front
      obtain ⟨rfl, -⟩ := List.cons.inj front
      omega

theorem nibble_of_char {c : Char} {n : Nat} (small : n < 16) (lower : c.toLower = digit n) :
    ∃ b, String.utf8EncodeChar c = [b] ∧ nibble b = some n := by
  have ascii : c.toNat < 128 := by
    refine Decidable.byContradiction fun long => ?_
    have same : c.toLower = c := dif_neg fun letter =>
      long (Nat.lt_of_le_of_lt (UInt32.le_iff_toNat_le.mp letter.2) (by decide))
    rw [← same, lower] at long
    exact long (digit_lt n small)
  refine ⟨UInt8.ofNat c.toNat, encodeChar_of_lt ascii, nibble_of_digit c.toNat ascii n small ?_⟩
  rw [Char.ofNat_toNat, lower]

theorem encodeBytes_cons (b : UInt8) (rest : Bytes) :
    encodeBytes (b :: rest) =
      digit (b.toNat / 16) :: digit (b.toNat % 16) :: encodeBytes rest :=
  rfl

theorem lower_of_decodePairs {position : Nat} {digits bytes : Bytes} {chars : List Char}
    (encoded : digits = chars.flatMap String.utf8EncodeChar) (even : ¬ digits.length % 2 = 1)
    (decoded : decodePairs position digits = .ok bytes) :
    chars.map Char.toLower = encodeBytes bytes := by
  fun_induction decodePairs position digits generalizing chars bytes with
  | case1 position high low rest h l lowRead highRead tail read ih =>
    cases decoded
    obtain ⟨c, others, rfl, highLower, encoded⟩ := char_of_nibble encoded highRead
    obtain ⟨d, others, rfl, lowLower, encoded⟩ := char_of_nibble encoded lowRead
    obtain ⟨-, _, -⟩ := nibble_lt highRead
    obtain ⟨-, _, -⟩ := nibble_lt lowRead
    have value : (UInt8.ofNat (16 * h + l)).toNat = 16 * h + l := by
      rw [UInt8.toNat_ofNat']
      omega
    have tail := ih encoded (by simp only [List.length_cons] at even; omega) read
    rw [List.map_cons, List.map_cons, highLower, lowLower, tail, encodeBytes_cons, value,
      show (16 * h + l) / 16 = h by omega, show (16 * h + l) % 16 = l by omega]
  | case2 | case3 | case4 => cases decoded
  | case5 digits position unpaired =>
    cases decoded
    -- a byte alone would be odd, and a character has at least one byte
    have empty : digits = [] := by
      match digits with
      | [] => rfl
      | [_] => exact absurd rfl even
      | high :: low :: rest => exact (unpaired high low rest rfl).elim
    cases chars with
    | nil => rfl
    | cons c others =>
      have length := congrArg List.length encoded
      have positive := c.utf8Size_pos
      rw [empty, List.flatMap_cons, List.length_append, String.length_utf8EncodeChar,
        List.length_nil] at length
      omega

theorem decodePairs_of_lower {chars : List Char} {bytes : Bytes}
    (lower : chars.map Char.toLower = encodeBytes bytes) (position : Nat) :
    (chars.flatMap String.utf8EncodeChar).length = 2 * bytes.length ∧
      decodePairs position (chars.flatMap String.utf8EncodeChar) = .ok bytes := by
  induction bytes generalizing chars position with
  | nil =>
    rw [List.map_eq_nil_iff.mp lower]
    exact ⟨rfl, rfl⟩
  | cons b rest ih =>
    have small : b.toNat < 256 := b.toNat_lt
    have whole : 16 * (b.toNat / 16) + b.toNat % 16 = b.toNat := by omega
    rw [encodeBytes_cons] at lower
    obtain ⟨high, others, rfl, highLower, lower⟩ := List.map_eq_cons_iff.mp lower
    obtain ⟨low, others, rfl, lowLower, lower⟩ := List.map_eq_cons_iff.mp lower
    obtain ⟨x, highBytes, highRead⟩ := nibble_of_char (by omega) highLower
    obtain ⟨y, lowBytes, lowRead⟩ := nibble_of_char (by omega) lowLower
    obtain ⟨length, decoded⟩ := ih lower (position + 2)
    rw [List.flatMap_cons, List.flatMap_cons, highBytes, lowBytes]
    simp only [List.singleton_append, List.length_cons, decodePairs, highRead, lowRead, decoded,
      whole, UInt8.ofNat_toNat, length]
    exact ⟨by omega, trivial⟩

theorem decode_eq_ok_iff {text : String} {bytes : Bytes} :
    decode text = .ok bytes ↔ text.toList.map Char.toLower = encodeBytes bytes := by
  rw [decode, Text.utf8, decodeDigits]
  constructor
  · intro decoded
    split at decoded
    · cases decoded
    · rename_i even
      exact lower_of_decodePairs rfl even decoded
  · intro lower
    obtain ⟨length, decoded⟩ := decodePairs_of_lower lower 0
    rw [if_neg (by omega), decoded]

/-- A text without a leading `0x`, its letters in lower case. -/
def canonical (text : String) : String :=
  String.ofList ((unprefixed text.toList).map Char.toLower)

theorem decodePrefixed_eq_ok_iff {text : String} {bytes : Bytes} :
    decodePrefixed text = .ok bytes ↔ canonical text = encode bytes := by
  rw [decodePrefixed, decode_eq_ok_iff, String.toList_ofList, canonical, encode, String.ofList_inj]

end PaymentChannel.Hex
