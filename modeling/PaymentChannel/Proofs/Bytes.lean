import PaymentChannel.Bytes

/-! The digits of a number in base 256. They are those of that number, no more than fit its size,
and the most significant of them is not zero. A register holds the number of eight bytes at most; of
more it holds the number of the first eight. -/
namespace PaymentChannel.Bytes

theorem toNatLE_digitsLE (n : Nat) : toNatLE (digitsLE n) = n := by
  induction n using Nat.strongRecOn with
  | ind n ih =>
    rw [digitsLE]
    split
    · simp [toNatLE, *]
    · simp only [toNatLE, UInt8.toNat_ofNat', ih (n / 256) (by omega)]
      omega

theorem length_digitsLE_le (width : Nat) {n : Nat} (small : n < capacity width) :
    (digitsLE n).length ≤ width := by
  induction width generalizing n with
  | zero =>
    have zero : n = 0 := by simpa [capacity] using small
    simp [digitsLE, zero]
  | succ width ih =>
    rw [digitsLE]
    split
    · simp
    · simp only [capacity] at small
      have high : (digitsLE (n / 256)).length ≤ width := ih (by omega)
      simp only [List.length_cons]
      omega

theorem getLast?_digitsLE_ne_zero (n : Nat) : (digitsLE n).getLast? ≠ some 0 := by
  induction n using Nat.strongRecOn with
  | ind n ih =>
    rw [digitsLE]
    split
    · simp
    · rename_i positive
      cases more : digitsLE (n / 256) with
      | nil =>
        have high : n / 256 = 0 := by
          have digits := toNatLE_digitsLE (n / 256)
          rw [more] at digits
          exact digits.symm
        intro zero
        have low : (UInt8.ofNat n).toNat = 0 := congrArg UInt8.toNat (Option.some.inj zero)
        rw [UInt8.toNat_ofNat'] at low
        omega
      | cons digit digits =>
        rw [List.getLast?_cons_cons, ← more]
        exact ih (n / 256) (by omega)

theorem capacity_mono {few many : Nat} (le : few ≤ many) : capacity few ≤ capacity many := by
  induction le with
  | refl => exact Nat.le_refl _
  | step _ ih =>
    simp only [capacity]
    omega

theorem toNatLE_replicate_zero (n : Nat) : toNatLE (List.replicate n 0) = 0 := by
  induction n with
  | zero => rfl
  | succ n ih => simp [List.replicate_succ, toNatLE, ih]

theorem toNatLE_append_zeros (bytes : Bytes) (n : Nat) :
    toNatLE (bytes ++ List.replicate n 0) = toNatLE bytes := by
  rw [toNatLE_append, toNatLE_replicate_zero, Nat.mul_zero, Nat.add_zero]

/-- A byte goes into the low bits of the register, which the shift has left clear. -/
private theorem toNat_shift_or (register : UInt64) (b : UInt8) :
    ((register <<< 8) ||| b.toUInt64).toNat = (256 * register.toNat + b.toNat) % capacity 8 := by
  have byte : b.toNat < 256 := b.toNat_lt
  have kept : register.toNat <<< 8 % 0x10000000000000000 =
      (register.toNat % 0x100000000000000) <<< 8 := by
    simp only [Nat.shiftLeft_eq]
    omega
  calc ((register <<< 8) ||| b.toUInt64).toNat
    _ = register.toNat <<< 8 % 0x10000000000000000 ||| b.toNat := by
      rw [UInt64.toNat_or, UInt64.toNat_shiftLeft, UInt8.toNat_toUInt64]
      rfl
    _ = (register.toNat % 0x100000000000000) <<< 8 + b.toNat := by
      rw [kept, Nat.shiftLeft_add_eq_or_of_lt byte]
    _ = (256 * register.toNat + b.toNat) % capacity 8 := by
      simp only [Nat.shiftLeft_eq, capacity]
      omega

theorem toNat_toUInt64LE (bytes : Bytes) :
    (toUInt64LE bytes).toNat = toNatLE bytes % capacity 8 := by
  induction bytes with
  | nil => rfl
  | cons b rest ih =>
    rw [toUInt64LE, List.foldr_cons, toNat_shift_or]
    rw [toUInt64LE] at ih
    rw [ih, toNatLE]
    simp only [capacity]
    omega

theorem toNat_toUInt64LE_of_length_le {bytes : Bytes} (short : bytes.length ≤ 8) :
    (toUInt64LE bytes).toNat = toNatLE bytes := by
  rw [toNat_toUInt64LE]
  exact Nat.mod_eq_of_lt (Nat.lt_of_lt_of_le (toNatLE_lt bytes) (capacity_mono short))

end PaymentChannel.Bytes
