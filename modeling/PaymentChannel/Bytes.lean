/-! Byte strings, and the fixed-width numbers written in them. A number in `width` bytes keeps its
value modulo the capacity of that many; reading is exact at any length, unless a register of fixed
width is read into. -/
namespace PaymentChannel

abbrev Bytes := List UInt8

namespace Bytes

/-- How many values `width` bytes can take. -/
def capacity : Nat → Nat
  | 0 => 1
  | width + 1 => 256 * capacity width

/-- `n` in `width` bytes, least significant first. -/
def ofNatLE : Nat → Nat → Bytes
  | 0, _ => []
  | width + 1, n => UInt8.ofNat n :: ofNatLE width (n / 256)

/-- The number whose base-256 digits are the bytes, least significant first. -/
def toNatLE : Bytes → Nat
  | [] => 0
  | b :: rest => b.toNat + 256 * toNatLE rest

/-- The bytes put into a register of 64 bits, least significant first. The last byte goes in first,
and each shifts those after it up; what is shifted out of the register is lost. -/
def toUInt64LE (bytes : Bytes) : UInt64 :=
  bytes.foldr (fun b register => (register <<< 8) ||| b.toUInt64) 0

/-- `n` in `width` bytes, most significant first. -/
def ofNatBE (width n : Nat) : Bytes := (ofNatLE width n).reverse

/-- The number whose base-256 digits are the bytes, most significant first. -/
def toNatBE (bytes : Bytes) : Nat := bytes.foldl (fun n b => 256 * n + b.toNat) 0

/-- The bytes of `n` with no leading zero, least significant first; none for zero. -/
def digitsLE (n : Nat) : Bytes :=
  if n = 0 then [] else UInt8.ofNat n :: digitsLE (n / 256)
termination_by n
decreasing_by omega

@[simp] theorem length_ofNatLE (width n : Nat) : (ofNatLE width n).length = width := by
  induction width generalizing n with
  | zero => rfl
  | succ width ih => simp [ofNatLE, ih]

@[simp] theorem length_ofNatBE (width n : Nat) : (ofNatBE width n).length = width := by
  simp [ofNatBE]

theorem toNatLE_ofNatLE (width n : Nat) : toNatLE (ofNatLE width n) = n % capacity width := by
  induction width generalizing n with
  | zero => simp [ofNatLE, toNatLE, capacity, Nat.mod_one]
  | succ width ih =>
    simp only [ofNatLE, toNatLE, ih, UInt8.toNat_ofNat', capacity]
    rw [Nat.mod_mul]

theorem ofNatLE_toNatLE (bytes : Bytes) : ofNatLE bytes.length (toNatLE bytes) = bytes := by
  induction bytes with
  | nil => rfl
  | cons b rest ih =>
    have small : b.toNat < 256 := b.toNat_lt
    have low : UInt8.ofNat (b.toNat + 256 * toNatLE rest) = b := by
      apply UInt8.toNat_inj.mp
      simp only [UInt8.toNat_ofNat']
      omega
    have high : (b.toNat + 256 * toNatLE rest) / 256 = toNatLE rest := by omega
    simp only [List.length_cons, toNatLE, ofNatLE, low, high, ih]

theorem toNatLE_lt (bytes : Bytes) : toNatLE bytes < capacity bytes.length := by
  induction bytes with
  | nil => simp [toNatLE, capacity]
  | cons b rest ih =>
    have small : b.toNat < 256 := b.toNat_lt
    simp only [toNatLE, List.length_cons, capacity]
    omega

theorem toNatLE_append (xs ys : Bytes) :
    toNatLE (xs ++ ys) = toNatLE xs + capacity xs.length * toNatLE ys := by
  induction xs with
  | nil => simp [toNatLE, capacity]
  | cons x xs ih =>
    simp only [List.cons_append, toNatLE, ih, List.length_cons, capacity]
    rw [Nat.mul_add, ← Nat.mul_assoc, Nat.add_assoc]

private theorem foldl_digits (bytes : Bytes) (n : Nat) :
    bytes.foldl (fun n b => 256 * n + b.toNat) n =
      n * capacity bytes.length + toNatLE bytes.reverse := by
  induction bytes generalizing n with
  | nil => simp [capacity, toNatLE]
  | cons b rest ih =>
    rw [List.foldl_cons, ih, List.reverse_cons, toNatLE_append, List.length_reverse,
      List.length_cons, capacity]
    simp only [toNatLE, Nat.mul_zero, Nat.add_zero, Nat.add_mul]
    rw [Nat.mul_comm 256 n, Nat.mul_assoc, Nat.mul_comm b.toNat]
    omega

/-- Reading the most significant byte first is reading the reversed string. -/
theorem toNatBE_eq (bytes : Bytes) : toNatBE bytes = toNatLE bytes.reverse := by
  rw [toNatBE, foldl_digits, Nat.zero_mul, Nat.zero_add]

theorem toNatBE_ofNatBE (width n : Nat) : toNatBE (ofNatBE width n) = n % capacity width := by
  rw [toNatBE_eq, ofNatBE, List.reverse_reverse, toNatLE_ofNatLE]

end Bytes
end PaymentChannel
