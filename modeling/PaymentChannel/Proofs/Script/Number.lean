import PaymentChannel.Proofs.Script.Sequence
import PaymentChannel.Proofs.Script.Walk
import PaymentChannel.Script.Number

/-! Numbers in scripts. A number that fits sixteen bits takes at most three bytes and is read back
by the reader of timelocks, which takes no notice of the sign: the zero byte that keeps the sign bit
clear does not change the value. -/
namespace PaymentChannel.Script

theorem toNatLE_numberBytes (n : Nat) : Bytes.toNatLE (numberBytes n) = n := by
  have digits := Bytes.toNatLE_digitsLE n
  simp only [numberBytes]
  split
  · split
    · rw [Bytes.toNatLE_append, digits]
      simp [Bytes.toNatLE]
    · exact digits
  · rename_i none_left
    rw [List.getLast?_eq_none_iff.mp none_left] at digits
    exact digits

theorem length_numberBytes_le (width : Nat) {n : Nat} (small : n < Bytes.capacity width) :
    (numberBytes n).length ≤ width + 1 := by
  have digits := Bytes.length_digitsLE_le width small
  simp only [numberBytes]
  split
  · split
    · simpa using digits
    · omega
  · simp

theorem numberWord_of_lt {n : Nat} (large : 16 < n) : numberWord n = .push (numberBytes n) := by
  rw [numberWord, if_neg (by omega), if_neg (by omega)]

theorem isWellFormed_numberWord (n : UInt16) : (numberWord n.toNat).IsWellFormed := by
  have bound := n.toNat_lt
  by_cases large : 16 < n.toNat
  · have short := length_numberBytes_le 2 (n.toNat_lt : n.toNat < Bytes.capacity 2)
    rw [numberWord_of_lt large]
    exact Word.isWellFormed_push (by omega)
  · rw [numberWord]
    split
    · exact Word.isWellFormed_op (.inl rfl)
    · rw [if_pos (by omega)]
      apply Word.isWellFormed_op
      simp only [Opcode.number, UInt8.toNat_ofNat']
      omega

theorem sequenceValue_numberWord (n : UInt16) : sequenceValue (numberWord n.toNat) = .ok n := by
  have bound := n.toNat_lt
  by_cases large : 16 < n.toNat
  · have short := length_numberBytes_le 2 (n.toNat_lt : n.toNat < Bytes.capacity 2)
    have value := toNatLE_numberBytes n.toNat
    have some_bytes : (numberBytes n.toNat).length ≠ 0 := by
      intro none_left
      rw [List.length_eq_zero_iff.mp none_left] at value
      simp only [Bytes.toNatLE] at value
      omega
    have opcode : (numberWord n.toNat).opcode.toNat = (numberBytes n.toNat).length := by
      rw [numberWord_of_lt large, Word.push, if_pos (by omega)]
      simp only [UInt8.toNat_ofNat']
      omega
    have data : (numberWord n.toNat).data = numberBytes n.toNat := by
      rw [numberWord_of_lt large, Word.data_push]
    refine (sequenceValue_push_eq_ok_iff (by omega) (by omega)).mpr ?_
    rw [data]
    exact ⟨by omega, value⟩
  · rw [numberWord]
    split
    · rename_i zero
      have same : n = 0 := UInt16.toNat_inj.mp zero
      subst same
      rfl
    · have opcode : (Word.op (Opcode.number n.toNat)).opcode.toNat = 0x50 + n.toNat := by
        simp only [Word.op, Opcode.number, UInt8.toNat_ofNat']
        omega
      rw [if_pos (by omega), sequenceValue_of_small (by omega) (by omega), opcode,
        Nat.add_sub_cancel_left, UInt16.ofNat_toNat]

end PaymentChannel.Script
