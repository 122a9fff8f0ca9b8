import PaymentChannel.Curve.Point
import PaymentChannel.Hex

/-! Public and secret keys. A public key is a first coordinate with a parity under which the curve
has a point, which is what its 33-byte form says; a secret key is a multiplier together with the
public key it gives. -/
namespace PaymentChannel

structure PublicKey where
  x : Nat
  odd : Bool
  valid : (Curve.lift x odd).isSome = true
deriving DecidableEq

namespace PublicKey

def point (key : PublicKey) : Curve.Affine := ⟨key.x, (Curve.lift key.x key.odd).get key.valid⟩

def ofX? (x : Nat) (odd : Bool) : Option PublicKey :=
  if h : (Curve.lift x odd).isSome = true then some ⟨x, odd, h⟩ else none

/-- The key of a point given by both coordinates, which must lie on the curve. -/
def ofAffine? (point : Curve.Affine) : Option PublicKey :=
  let odd := point.y % 2 == 1
  if Curve.lift point.x odd = some point.y then ofX? point.x odd else none

/-- The compressed form: a byte that tells the parity, then the first coordinate. -/
def toBytes (key : PublicKey) : Bytes := (if key.odd then 3 else 2) :: Bytes.ofNatBE 32 key.x

/-- Reads the compressed form, the form with both coordinates, and the one with both coordinates
whose first byte tells the parity as well. -/
def ofBytes? : Bytes → Option PublicKey
  | [] => none
  | tag :: rest =>
    if rest.length = 32 ∧ (tag = 2 ∨ tag = 3) then ofX? (Bytes.toNatBE rest) (tag == 3)
    else if rest.length = 64 ∧ (tag = 4 ∨ tag = 6 ∨ tag = 7) then
      let y := Bytes.toNatBE (rest.drop 32)
      if tag = 4 ∨ (tag == 7) = (y % 2 == 1) then
        ofAffine? ⟨Bytes.toNatBE (rest.take 32), y⟩
      else none
    else none

def toHex (key : PublicKey) : String := Hex.encode key.toBytes

def ofHex? (text : String) : Option PublicKey :=
  match Hex.decode text with
  | .ok bytes => ofBytes? bytes
  | .error _ => none

@[simp] theorem length_toBytes (key : PublicKey) : key.toBytes.length = 33 := by
  simp [toBytes]

theorem x_lt (key : PublicKey) : key.x < Curve.fieldSize := by
  have h := key.valid
  simp only [Curve.lift] at h
  split at h
  · assumption
  · cases h

/-- The compressed form of a key is read back as that key. -/
@[simp] theorem ofBytes?_toBytes (key : PublicKey) : ofBytes? key.toBytes = some key := by
  have exact_x : Bytes.toNatBE (Bytes.ofNatBE 32 key.x) = key.x := by
    rw [Bytes.toNatBE_ofNatBE]
    exact Nat.mod_eq_of_lt (Nat.lt_trans key.x_lt (by decide))
  have same : ofX? key.x key.odd = some key := by
    rw [ofX?, dif_pos key.valid]
  cases parity : key.odd <;> simp [toBytes, ofBytes?, parity, exact_x, ← same]

@[simp] theorem ofHex?_toHex (key : PublicKey) : ofHex? key.toHex = some key := by
  simp [ofHex?, toHex]

end PublicKey

namespace Curve

/-- The public key of a multiplier from 1 to below the group order. -/
def publicKey? (scalar : Nat) : Option PublicKey :=
  if 0 < scalar ∧ scalar < groupOrder then
    (Jacobian.mul scalar basePoint).toAffine? >>= PublicKey.ofAffine?
  else none

end Curve

structure SecretKey where
  scalar : Nat
  publicKey : PublicKey
  derives : Curve.publicKey? scalar = some publicKey
deriving DecidableEq

namespace SecretKey

def ofScalar? (scalar : Nat) : Option SecretKey :=
  match h : Curve.publicKey? scalar with
  | some publicKey => some ⟨scalar, publicKey, h⟩
  | none => none

def toBytes (key : SecretKey) : Bytes := Bytes.ofNatBE 32 key.scalar

def ofBytes? (bytes : Bytes) : Option SecretKey :=
  if bytes.length = 32 then ofScalar? (Bytes.toNatBE bytes) else none

def toHex (key : SecretKey) : String := Hex.encode key.toBytes

def ofHex? (text : String) : Option SecretKey := Hex.decodeExactly 32 text >>= ofBytes?

theorem scalar_range (key : SecretKey) : 0 < key.scalar ∧ key.scalar < Curve.groupOrder := by
  have h := key.derives
  simp only [Curve.publicKey?] at h
  split at h
  · assumption
  · cases h

@[simp] theorem ofScalar?_scalar (key : SecretKey) : ofScalar? key.scalar = some key := by
  obtain ⟨scalar, publicKey, derives⟩ := key
  simp only [ofScalar?]
  split
  · rename_i other found
    have same : other = publicKey := Option.some.inj (found.symm.trans derives)
    subst same
    rfl
  · rename_i missing
    rw [derives] at missing
    cases missing

/-- The 32 bytes of a secret key are read back as that key. -/
@[simp] theorem ofBytes?_toBytes (key : SecretKey) : ofBytes? key.toBytes = some key := by
  have exact_scalar : Bytes.toNatBE (Bytes.ofNatBE 32 key.scalar) = key.scalar := by
    rw [Bytes.toNatBE_ofNatBE]
    exact Nat.mod_eq_of_lt (Nat.lt_trans key.scalar_range.2 (by decide))
  simp [ofBytes?, toBytes, exact_scalar]

@[simp] theorem ofHex?_toHex (key : SecretKey) : ofHex? key.toHex = some key := by
  have width : key.toBytes.length = 32 := by simp [toBytes]
  simp [ofHex?, toHex, Hex.decodeExactly, width]

end SecretKey
end PaymentChannel
