import PaymentChannel.Ecdsa.Encoding
import PaymentChannel.Proofs.Bytes

/-! Signatures in their script form are read back. A scalar below the group order takes at most
thirty-three bytes, so every length fits one byte; the first byte of a scalar has a clear sign bit
and is zero only where the next one would set it, which is what the strict reader asks for. The byte
behind the two scalars names the sighash type, and a reader that asks for one type takes no other. -/
namespace PaymentChannel.Signature

namespace Der

theorem natBytes_eq (n : Nat) : (n = 0 ∧ natBytes n = [0]) ∨
    ∃ b rest, (Bytes.digitsLE n).reverse = b :: rest ∧ b ≠ 0 ∧
      natBytes n = if 0x80 ≤ b then 0 :: b :: rest else b :: rest := by
  rw [natBytes]
  cases reversed : (Bytes.digitsLE n).reverse with
  | nil =>
    have digits := Bytes.toNatLE_digitsLE n
    rw [List.reverse_eq_nil_iff.mp reversed] at digits
    exact .inl ⟨digits.symm, rfl⟩
  | cons b rest =>
    have first := congrArg List.head? reversed
    rw [List.head?_reverse] at first
    refine .inr ⟨b, rest, rfl, ?_, rfl⟩
    intro zero
    exact Bytes.getLast?_digitsLE_ne_zero n (zero ▸ first)

theorem toNatBE_natBytes (n : Nat) : Bytes.toNatBE (natBytes n) = n := by
  have digits := Bytes.toNatLE_digitsLE n
  rcases natBytes_eq n with ⟨rfl, bytes⟩ | ⟨b, rest, reversed, -, bytes⟩
  · rw [bytes]
    rfl
  · have order : Bytes.digitsLE n = (b :: rest).reverse := by rw [← reversed, List.reverse_reverse]
    rw [order] at digits
    rw [bytes]
    split
    · rw [Bytes.toNatBE_eq, List.reverse_cons, Bytes.toNatLE_append, digits]
      simp [Bytes.toNatLE]
    · rw [Bytes.toNatBE_eq, digits]

theorem length_natBytes_le (width : Nat) {n : Nat} (small : n < Bytes.capacity width) :
    (natBytes n).length ≤ width + 1 := by
  have digits := Bytes.length_digitsLE_le width small
  rcases natBytes_eq n with ⟨-, bytes⟩ | ⟨b, rest, reversed, -, bytes⟩
  · simp [bytes]
  · have length := congrArg List.length reversed
    rw [List.length_reverse, List.length_cons] at length
    rw [bytes]
    split
    · simp only [List.length_cons]
      omega
    · simp only [List.length_cons]
      omega

theorem natBytes_ne_nil (n : Nat) : natBytes n ≠ [] := by
  rcases natBytes_eq n with ⟨-, bytes⟩ | ⟨b, rest, -, -, bytes⟩
  · simp [bytes]
  · rw [bytes]
    split <;> simp

theorem headD_natBytes_lt (n : Nat) : (natBytes n).headD 0 < 0x80 := by
  rcases natBytes_eq n with ⟨-, bytes⟩ | ⟨b, rest, -, -, bytes⟩
  · simp [bytes]
  · rw [bytes]
    split
    · simp
    · rename_i clear
      exact UInt8.not_le.mp clear

theorem isPadded_natBytes (n : Nat) : isPadded (natBytes n) = false := by
  rcases natBytes_eq n with ⟨-, bytes⟩ | ⟨b, rest, -, nonzero, bytes⟩
  · rw [bytes]
    rfl
  · rw [bytes]
    split
    · rename_i set
      simp [isPadded, UInt8.not_lt.mpr set]
    · rename_i clear
      have other : b ≠ 0xff := by
        intro same
        exact clear (same ▸ by decide)
      cases rest with
      | nil => rfl
      | cons second rest => simp [isPadded, nonzero, other]

theorem scalar_natBytes {n : Nat} (small : n < Curve.groupOrder) : scalar (natBytes n) = n := by
  rw [scalar, toNatBE_natBytes, if_pos ⟨headD_natBytes_lt n, small⟩]

theorem readLength_ofNat {length : Nat} (short : length < 0x80) (rest : Bytes) :
    readLength (UInt8.ofNat length :: rest) = some (length, rest) := by
  have value : (UInt8.ofNat length).toNat = length := by
    rw [UInt8.toNat_ofNat']
    omega
  have below : UInt8.ofNat length < 0x80 := by
    rw [UInt8.lt_iff_toNat_lt, value]
    exact short
  rw [readLength, if_pos below, value]

theorem readInteger_integer {n : Nat} (small : n < Curve.groupOrder) (rest : Bytes) :
    readInteger (integer n ++ rest) = some (natBytes n, rest) := by
  have length : (natBytes n).length ≤ 33 :=
    length_natBytes_le 32 (Nat.lt_trans small (by decide))
  have front : integer n ++ rest =
      0x02 :: UInt8.ofNat (natBytes n).length :: (natBytes n ++ rest) := by
    rw [integer, List.cons_append, List.cons_append]
  rw [front, readInteger, if_pos rfl, readLength_ofNat (by omega)]
  simp [isPadded_natBytes, natBytes_ne_nil]

theorem length_integer_le {n : Nat} (small : n < Curve.groupOrder) : (integer n).length ≤ 35 := by
  have length := length_natBytes_le 32 (Nat.lt_trans small (by decide))
  simp only [integer, List.length_cons]
  omega

theorem decode?_encode (sig : Signature) : decode? (encode sig) = some sig := by
  have short : (integer sig.r ++ integer sig.s).length < 0x80 := by
    have r := length_integer_le sig.r_lt
    have s := length_integer_le sig.s_lt
    rw [List.length_append]
    omega
  have last : readInteger (integer sig.s) = some (natBytes sig.s, []) := by
    have read := readInteger_integer sig.s_lt []
    rwa [List.append_nil] at read
  rw [encode, decode?, if_pos rfl, readLength_ofNat short]
  simp only [if_true, readInteger_integer sig.r_lt, last, scalar_natBytes sig.r_lt,
    scalar_natBytes sig.s_lt]

end Der

theorem length_toScriptBytes_le (sig : Signature) (kind : SighashType) :
    (sig.toScriptBytes kind).length ≤ 73 := by
  have r := Der.length_integer_le sig.r_lt
  have s := Der.length_integer_le sig.s_lt
  simp only [toScriptBytes, Der.encode, List.length_append, List.length_cons, List.length_nil]
  omega

theorem ofScriptBytes?_toScriptBytes (sig : Signature) (kind : SighashType) :
    ofScriptBytes? (sig.toScriptBytes kind) = some (sig, kind) := by
  rw [ofScriptBytes?, toScriptBytes, List.getLast?_concat, List.dropLast_concat]
  simp only [SighashType.ofByte?_toByte, Der.decode?_encode]

/-- The script form is the DER form and the byte of the sighash type. -/
theorem ofScriptBytes?_eq_some_iff {bytes : Bytes} {sig : Signature} {kind : SighashType} :
    ofScriptBytes? bytes = some (sig, kind) ↔
      ∃ der, bytes = der ++ [kind.toByte] ∧ Der.decode? der = some sig := by
  constructor
  · intro read
    rw [ofScriptBytes?] at read
    split at read
    · cases read
    · rename_i last ends
      obtain ⟨der, rfl⟩ := List.getLast?_eq_some_iff.mp ends
      rw [List.dropLast_concat] at read
      split at read
      · rename_i named decoded
        cases read
        exact ⟨der, by rw [SighashType.toByte_of_ofByte? named], decoded⟩
      · cases read
  · rintro ⟨der, rfl, decoded⟩
    rw [ofScriptBytes?, List.getLast?_concat, List.dropLast_concat]
    simp only [SighashType.ofByte?_toByte, decoded]

/-- The bytes that stand for a sighash type. -/
def standardBytes : List UInt8 := [0x01, 0x02, 0x03, 0x81, 0x82, 0x83]

theorem toByte_mem_standardBytes (kind : SighashType) : kind.toByte ∈ standardBytes := by
  cases kind <;> decide

theorem ofScriptBytesAs?_of_read {bytes : Bytes} {sig : Signature} {kind : SighashType}
    (read : ofScriptBytes? bytes = some (sig, kind)) (asked : SighashType) :
    ofScriptBytesAs? bytes asked = if asked = kind then some sig else none := by
  rw [ofScriptBytesAs?, read]
  simp only [eq_comm]

theorem ofScriptBytesAs?_of_refused {bytes : Bytes} (refused : ofScriptBytes? bytes = none)
    (asked : SighashType) : ofScriptBytesAs? bytes asked = none := by
  rw [ofScriptBytesAs?, refused]

theorem ofScriptBytes?_eq_none {bytes : Bytes}
    (other : ∀ last ∈ bytes.getLast?, last ∉ standardBytes) : ofScriptBytes? bytes = none := by
  cases read : ofScriptBytes? bytes with
  | none => rfl
  | some found =>
    obtain ⟨der, rfl, -⟩ := ofScriptBytes?_eq_some_iff.mp read
    exact absurd (toByte_mem_standardBytes found.2) (other _ List.getLast?_concat)

/-- What any signature is written as, for any sighash type, is read as these two, and by a reader that
asks for a type only where it asks for that one. The same readers agree on every byte string: the
last byte is that of the type which is found and asked for, and nothing is read where there is no
last byte or where it stands for no type. -/
theorem script_form_round_trips :
    (∀ (sig : Signature) (kind : SighashType),
      ofScriptBytes? (sig.toScriptBytes kind) = some (sig, kind) ∧
      ∀ asked, ofScriptBytesAs? (sig.toScriptBytes kind) asked =
        if asked = kind then some sig else none) ∧
    (∀ (bytes : Bytes) (sig : Signature) (kind : SighashType),
      ofScriptBytes? bytes = some (sig, kind) →
      bytes.getLast? = some kind.toByte ∧ kind.toByte ∈ standardBytes ∧
      ∀ asked, ofScriptBytesAs? bytes asked = if asked = kind then some sig else none) ∧
    ∀ bytes : Bytes, (bytes = [] ∨ ∃ last, bytes.getLast? = some last ∧ last ∉ standardBytes) →
      ofScriptBytes? bytes = none ∧ ∀ asked, ofScriptBytesAs? bytes asked = none := by
  refine ⟨fun sig kind => ?_, fun bytes sig kind read => ?_, fun bytes other => ?_⟩
  · have read := ofScriptBytes?_toScriptBytes sig kind
    exact ⟨read, ofScriptBytesAs?_of_read read⟩
  · obtain ⟨der, split, -⟩ := ofScriptBytes?_eq_some_iff.mp read
    refine ⟨?_, toByte_mem_standardBytes kind, ofScriptBytesAs?_of_read read⟩
    rw [split, List.getLast?_concat]
  · have refused : ofScriptBytes? bytes = none := by
      refine ofScriptBytes?_eq_none fun last there => ?_
      rcases other with rfl | ⟨found, ends, nonstandard⟩
      · cases there
      · rw [Option.mem_def, ends] at there
        cases there
        exact nonstandard
    exact ⟨refused, ofScriptBytesAs?_of_refused refused⟩

/-- A negative integer in a signature is read as zero, which is then written in another form. -/
theorem script_form_round_trips_negative :
    ofScriptBytes? [0x30, 6, 2, 1, 0x80, 2, 1, 1, 0x81] =
      some (⟨0, 1, by decide, by decide⟩, .allAnyoneCanPay) ∧
    ([0x30, 6, 2, 1, 0x80, 2, 1, 1, 0x81] : Bytes).getLast? = some 0x81 ∧
    ofScriptBytesAs? [0x30, 6, 2, 1, 0x80, 2, 1, 1, 0x81] .all = none ∧
    ofScriptBytes? [0x30, 6, 2, 1, 0x80, 2, 1, 1, 0x04] = none := by
  have read : ofScriptBytes? [0x30, 6, 2, 1, 0x80, 2, 1, 1, 0x81] =
      some (⟨0, 1, by decide, by decide⟩, .allAnyoneCanPay) := by decide +kernel
  obtain ⟨-, found, refused⟩ := script_form_round_trips
  obtain ⟨last, -, asked⟩ := found _ _ _ read
  exact ⟨read, last, asked .all, (refused _ (.inr ⟨0x04, rfl, by decide⟩)).1⟩

end PaymentChannel.Signature
