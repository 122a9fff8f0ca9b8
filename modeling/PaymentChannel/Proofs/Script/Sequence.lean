import Mathlib.Algebra.BigOperators.Fin
import PaymentChannel.Proofs.Bytes
import PaymentChannel.Template.Field

/-! The timelocks that words stand for. The data of a direct push are read through a register of 64
bits and a timelock has 16, but neither loses anything: data that the register cannot hold are
refused before they are read into it, and numbers out of range before they are cut to size. -/
namespace PaymentChannel

/-- The digits of a number, each times its power of the base. -/
theorem Bytes.toNatLE_eq_sum (bytes : Bytes) :
    toNatLE bytes = ∑ i : Fin bytes.length, bytes[i].toNat * 256 ^ (i : ℕ) := by
  induction bytes with
  | nil => rfl
  | cons b rest ih =>
    have lowest : b.toNat = b.toNat * 256 ^ 0 := (Nat.mul_one _).symm
    have higher : 256 * toNatLE rest =
        ∑ i : Fin rest.length, rest[i].toNat * 256 ^ ((i : ℕ) + 1) := by
      rw [ih, Finset.mul_sum]
      refine Finset.sum_congr rfl fun i _ => ?_
      rw [pow_succ', Nat.mul_left_comm]
    rw [toNatLE, higher, lowest]
    exact (Fin.sum_univ_succ fun i : Fin (b :: rest).length =>
      (b :: rest)[i].toNat * 256 ^ (i : ℕ)).symm

namespace Script

variable {word : Word}

theorem sequenceValue_of_number {value : UInt64} (number : sequenceNumber word = .ok value) :
    sequenceValue word =
      if maxSequence < value.toNat then .error (.sequenceTooLarge value.toNat)
      else .ok (UInt16.ofNat value.toNat) := by
  rw [sequenceValue, number]
  by_cases large : maxSequence < value.toNat
  · simp only [bind, Except.bind, if_pos large]
    rfl
  · simp only [bind, Except.bind, if_neg large]
    rfl

theorem sequenceValue_of_error {fault : Fault} (refused : sequenceNumber word = .error fault) :
    sequenceValue word = .error fault := by
  rw [sequenceValue, refused]
  rfl

theorem sequenceValue_of_zero (zero : word.opcode.toNat = 0) : sequenceValue word = .ok 0 := by
  have number : sequenceNumber word = .ok 0 := by
    rw [sequenceNumber, if_pos zero]
  exact sequenceValue_of_number number

/-- A direct push is read exactly, or refused for its length or its value. -/
theorem sequenceValue_of_push (positive : 0 < word.opcode.toNat)
    (direct : word.opcode.toNat ≤ 0x4b) :
    sequenceValue word =
      if 8 < word.data.length then .error (.sequenceTooLong word.data.length)
      else if maxSequence < Bytes.toNatLE word.data then
        .error (.sequenceTooLarge (Bytes.toNatLE word.data))
      else .ok (UInt16.ofNat (Bytes.toNatLE word.data)) := by
  have number : sequenceNumber word =
      if 8 < word.data.length then .error (.sequenceTooLong word.data.length)
      else .ok (Bytes.toUInt64LE word.data) := by
    rw [sequenceNumber, if_neg (Nat.ne_of_gt positive), if_pos direct]
  by_cases long : 8 < word.data.length
  · rw [if_pos long] at number ⊢
    exact sequenceValue_of_error number
  · rw [if_neg long] at number ⊢
    rw [sequenceValue_of_number number, Bytes.toNat_toUInt64LE_of_length_le (Nat.not_lt.mp long)]

theorem sequenceValue_of_small (above : 0x51 ≤ word.opcode.toNat)
    (below : word.opcode.toNat ≤ 0x60) :
    sequenceValue word = .ok (UInt16.ofNat (word.opcode.toNat - 0x50)) := by
  have number : sequenceNumber word = .ok (word.opcode - Opcode.one + 1).toUInt64 := by
    rw [sequenceNumber, if_neg (by omega), if_neg (by omega), if_pos ⟨above, below⟩]
  have value : (word.opcode - Opcode.one + 1).toUInt64.toNat = word.opcode.toNat - 0x50 := by
    have one : Opcode.one.toNat = 0x51 := rfl
    rw [UInt8.toNat_toUInt64, UInt8.toNat_add, UInt8.toNat_sub, one]
    change (_ + 1) % _ = _
    omega
  rw [sequenceValue_of_number number, value, if_neg]
  simp only [maxSequence]
  omega

theorem sequenceValue_of_other (above : 0x4b < word.opcode.toNat)
    (outside : ¬ (0x51 ≤ word.opcode.toNat ∧ word.opcode.toNat ≤ 0x60)) :
    sequenceValue word = .error (.notSequence word) := by
  apply sequenceValue_of_error
  rw [sequenceNumber, if_neg (by omega), if_neg (by omega), if_neg outside]

/-- A direct push is read as the number that its data are, where the register holds them; that number
is a timelock's. -/
theorem sequenceValue_push_eq_ok_iff (positive : 0 < word.opcode.toNat)
    (direct : word.opcode.toNat ≤ 0x4b) {n : UInt16} :
    sequenceValue word = .ok n ↔ word.data.length ≤ 8 ∧ Bytes.toNatLE word.data = n.toNat := by
  rw [sequenceValue_of_push positive direct]
  constructor
  · intro ok
    split at ok
    · cases ok
    · rename_i short
      split at ok
      · cases ok
      · rename_i within
        cases ok
        refine ⟨Nat.not_lt.mp short, ?_⟩
        simp only [maxSequence] at within
        rw [UInt16.toNat_ofNat']
        omega
  · rintro ⟨short, same⟩
    have within : n.toNat ≤ maxSequence := Nat.le_of_lt_succ n.toNat_lt
    rw [if_neg (Nat.not_lt.mpr short), same, if_neg (Nat.not_lt.mpr within), UInt16.ofNat_toNat]

theorem sequenceValue_push_error (positive : 0 < word.opcode.toNat)
    (direct : word.opcode.toNat ≤ 0x4b)
    (outside : ¬ (word.data.length ≤ 8 ∧ Bytes.toNatLE word.data ≤ maxSequence)) :
    ∃ fault, sequenceValue word = .error fault ∧ fault.kind = .timelockRange := by
  rw [sequenceValue_of_push positive direct]
  by_cases long : 8 < word.data.length
  · exact ⟨_, if_pos long, rfl⟩
  · have large : maxSequence < Bytes.toNatLE word.data := by
      by_contra within
      exact outside ⟨Nat.not_lt.mp long, Nat.not_lt.mp within⟩
    rw [if_neg long, if_pos large]
    exact ⟨_, rfl, rfl⟩

theorem sequenceValue_append_zeros {opcode : UInt8} {data : Bytes} (positive : 0 < opcode.toNat)
    (direct : opcode.toNat ≤ 0x4b) {zeros : Nat} (short : data.length + zeros ≤ 8) :
    sequenceValue ⟨opcode, data ++ List.replicate zeros 0⟩ = sequenceValue ⟨opcode, data⟩ := by
  have padded : (data ++ List.replicate zeros 0).length ≤ 8 := by
    rw [List.length_append, List.length_replicate]
    exact short
  have bare : data.length ≤ 8 := by omega
  rw [sequenceValue_of_push positive direct, sequenceValue_of_push positive direct]
  simp only [if_neg (Nat.not_lt.mpr padded), if_neg (Nat.not_lt.mpr bare),
    Bytes.toNatLE_append_zeros]

/-- Whatever its opcode and its data: a direct push is read as the sum of its bytes, each times its
power of 256, where these are eight at most and the sum is in the range of a timelock, and is out of
range in all other cases; zero bytes behind the others, up to eight in all, change nothing. The
opcodes of the numbers from 0 to 16 stand for these, and no other opcode is one of a timelock. -/
theorem sequences_are_read_exactly (opcode : UInt8) (data : Bytes) :
    let sum := ∑ i : Fin data.length, data[i].toNat * 256 ^ (i : ℕ)
    let read := sequenceValue ⟨opcode, data⟩
    (0x01 ≤ opcode.toNat ∧ opcode.toNat ≤ 0x4b →
      (∀ n : UInt16, read = .ok n ↔ data.length ≤ 8 ∧ sum = n.toNat ∧ sum ≤ 65535) ∧
      (¬ (data.length ≤ 8 ∧ sum ≤ 65535) →
        ∃ fault, read = .error fault ∧ fault.kind = .timelockRange) ∧
      (data.length ≤ 8 → (Bytes.toUInt64LE data).toNat = sum) ∧
      ∀ zeros, data.length + zeros ≤ 8 →
        sequenceValue ⟨opcode, data ++ List.replicate zeros 0⟩ = read) ∧
    (opcode.toNat = 0x00 → read = .ok 0) ∧
    (0x51 ≤ opcode.toNat ∧ opcode.toNat ≤ 0x60 →
      ∃ n : UInt16, read = .ok n ∧ n.toNat = opcode.toNat - 0x50) ∧
    (0x4b < opcode.toNat → ¬ (0x51 ≤ opcode.toNat ∧ opcode.toNat ≤ 0x60) →
      ∃ fault, read = .error fault ∧ fault.kind = .scriptFormat) := by
  intro sum read
  have value : sum = Bytes.toNatLE data := (Bytes.toNatLE_eq_sum data).symm
  refine ⟨?_, fun zero => sequenceValue_of_zero zero, ?_, ?_⟩
  · rintro ⟨positive, direct⟩
    have ok_iff := @sequenceValue_push_eq_ok_iff ⟨opcode, data⟩ positive direct
    rw [value]
    refine ⟨fun n => ?_, fun outside => sequenceValue_push_error positive direct outside,
      Bytes.toNat_toUInt64LE_of_length_le, fun zeros => sequenceValue_append_zeros positive direct⟩
    have within : n.toNat ≤ 65535 := Nat.le_of_lt_succ n.toNat_lt
    constructor
    · intro ok
      obtain ⟨short, same⟩ := ok_iff.mp ok
      exact ⟨short, same, same ▸ within⟩
    · rintro ⟨short, same, -⟩
      exact ok_iff.mpr ⟨short, same⟩
  · rintro ⟨above, below⟩
    refine ⟨_, sequenceValue_of_small above below, ?_⟩
    rw [UInt16.toNat_ofNat']
    change (opcode.toNat - 0x50) % 65536 = _
    omega
  · intro above outside
    exact ⟨_, sequenceValue_of_other above outside, rfl⟩

/-- A ninth byte would be lost in the register, and the rest would be in range. -/
theorem sequences_are_read_exactly_past_register :
    let data : Bytes := [5, 0, 0, 0, 0, 0, 0, 0, 1]
    Bytes.toUInt64LE data = 5 ∧
    (∃ fault, sequenceValue ⟨0x09, data⟩ = .error fault ∧ fault.kind = .timelockRange) ∧
    sequenceValue ⟨0x09, [5, 0, 0, 0, 0, 0, 0, 0]⟩ = .ok 5 ∧
    sequenceValue ⟨0x60, data⟩ = .ok 16 ∧
    ∃ fault, sequenceValue ⟨0x50, data⟩ = .error fault ∧ fault.kind = .scriptFormat := by
  intro data
  obtain ⟨push, -, -, -⟩ := sequences_are_read_exactly 0x09 data
  obtain ⟨-, refused, -, -⟩ := push (by decide)
  obtain ⟨push, -, -, -⟩ := sequences_are_read_exactly 0x09 [5]
  obtain ⟨exact_iff, -, -, padded⟩ := push (by decide)
  obtain ⟨-, -, small, -⟩ := sequences_are_read_exactly 0x60 data
  obtain ⟨n, read, same⟩ := small (by decide)
  obtain ⟨-, -, -, other⟩ := sequences_are_read_exactly 0x50 data
  refine ⟨by decide, refused (by decide), ?_, ?_, other (by decide) (by decide)⟩
  · exact (padded 7 (by decide)).trans ((exact_iff 5).mpr (by decide))
  · rw [read, UInt16.toNat_inj.mp (same.trans rfl : n.toNat = (16 : UInt16).toNat)]

end Script
end PaymentChannel
