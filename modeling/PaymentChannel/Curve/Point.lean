/-! The curve y² = x³ + 7 over the field of `fieldSize` elements, and the multiples of its base
point, of which there are `groupOrder`. Points are added in Jacobian coordinates: (x, y, z) with
z ≠ 0 stands for (x / z², y / z³), and z = 0 for the point at infinity. -/
namespace PaymentChannel.Curve

def fieldSize : Nat := 0xfffffffffffffffffffffffffffffffffffffffffffffffffffffffefffffc2f

def groupOrder : Nat := 0xfffffffffffffffffffffffffffffffebaaedce6af48a03bbfd25e8cd0364141

/-- The 256 low bits, the highest first. -/
def bits (n : Nat) : List Bool := (List.range 256).reverse.map n.testBit

/-- Powers modulo `modulus`, for exponents below `2 ^ 256`. -/
def power (modulus base exponent : Nat) : Nat :=
  (bits exponent).foldl (fun acc bit =>
    let square := acc * acc % modulus
    if bit then square * base % modulus else square) 1

/-- The inverse modulo a prime. -/
def inverse (modulus n : Nat) : Nat := power modulus n (modulus - 2)

def sub (a b : Nat) : Nat := (a + fieldSize - b % fieldSize) % fieldSize

structure Affine where
  x : Nat
  y : Nat

structure Jacobian where
  x : Nat
  y : Nat
  z : Nat

namespace Jacobian

def infinity : Jacobian := ⟨1, 1, 0⟩

def ofAffine (point : Affine) : Jacobian := ⟨point.x, point.y, 1⟩

def toAffine? (point : Jacobian) : Option Affine :=
  if point.z = 0 then none
  else
    let inv := inverse fieldSize point.z
    let inv2 := inv * inv % fieldSize
    some ⟨point.x * inv2 % fieldSize, point.y * (inv2 * inv % fieldSize) % fieldSize⟩

def double (point : Jacobian) : Jacobian :=
  let yy := point.y * point.y % fieldSize
  let s := 4 * point.x * yy % fieldSize
  let m := 3 * point.x * point.x % fieldSize
  let x := sub (m * m) (2 * s)
  ⟨x, sub (m * sub s x) (8 * yy * yy), 2 * point.y * point.z % fieldSize⟩

def add (p q : Jacobian) : Jacobian :=
  if p.z = 0 then q
  else if q.z = 0 then p
  else
    let pzz := p.z * p.z % fieldSize
    let qzz := q.z * q.z % fieldSize
    let u1 := p.x * qzz % fieldSize
    let u2 := q.x * pzz % fieldSize
    let s1 := p.y * (qzz * q.z % fieldSize) % fieldSize
    let s2 := q.y * (pzz * p.z % fieldSize) % fieldSize
    if u1 = u2 then
      if s1 = s2 then double p else infinity
    else
      let h := sub u2 u1
      let r := sub s2 s1
      let hh := h * h % fieldSize
      let hhh := hh * h % fieldSize
      let v := u1 * hh % fieldSize
      let x := sub (sub (r * r) hhh) (2 * v)
      ⟨x, sub (r * sub v x) (s1 * hhh), h * (p.z * q.z % fieldSize) % fieldSize⟩

/-- The multiple by a number below `2 ^ 256`. -/
def mul (n : Nat) (point : Jacobian) : Jacobian :=
  (bits n).foldl (fun acc bit => if bit then add (double acc) point else double acc) infinity

end Jacobian

def basePoint : Jacobian :=
  ⟨0x79be667ef9dcbbac55a06295ce870b07029bfcdb2dce28d959f2815b16f81798,
    0x483ada7726a3c4655da4fbfc0e1108a8fd17b448a68554199c47d08ffb10d4b8, 1⟩

/-- The second coordinate of the point over `x` whose parity is `odd`, where `x` is a field element
and such a point exists. -/
def lift (x : Nat) (odd : Bool) : Option Nat :=
  if x < fieldSize then
    let square := (x * x % fieldSize * x + 7) % fieldSize
    let root := power fieldSize square ((fieldSize + 1) / 4)
    if root * root % fieldSize = square then
      some (if (root % 2 == 1) == odd then root else fieldSize - root)
    else none
  else none

end PaymentChannel.Curve
