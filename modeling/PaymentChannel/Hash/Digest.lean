import PaymentChannel.Hash.Ripemd160
import PaymentChannel.Hash.Sha256
import PaymentChannel.Hex

/-! The two digests that scripts and transactions are named by, each with its length in its type. -/
namespace PaymentChannel

structure Hash160 where
  bytes : Bytes
  length_eq : bytes.length = 20
deriving DecidableEq

structure Hash256 where
  bytes : Bytes
  length_eq : bytes.length = 32
deriving DecidableEq

/-- RIPEMD-160 of SHA-256. -/
def hash160 (data : Bytes) : Hash160 := ⟨Hash.ripemd160 (Hash.sha256 data), rfl⟩

/-- SHA-256 of SHA-256. -/
def hash256 (data : Bytes) : Hash256 := ⟨Hash.sha256 (Hash.sha256 data), rfl⟩

namespace Hash160

def ofBytes? (bytes : Bytes) : Option Hash160 :=
  if h : bytes.length = 20 then some ⟨bytes, h⟩ else none

def toHex (hash : Hash160) : String := Hex.encode hash.bytes

def ofHex? (text : String) : Option Hash160 := Hex.decodeExactly 20 text >>= ofBytes?

@[simp] theorem ofBytes?_bytes (hash : Hash160) : ofBytes? hash.bytes = some hash := by
  simp [ofBytes?, hash.length_eq]

theorem bytes_of_ofBytes? {bytes : Bytes} {hash : Hash160} (h : ofBytes? bytes = some hash) :
    hash.bytes = bytes := by
  simp only [ofBytes?] at h
  split at h
  · cases h
    rfl
  · cases h

@[simp] theorem ofHex?_toHex (hash : Hash160) : ofHex? hash.toHex = some hash := by
  simp [ofHex?, toHex, Hex.decodeExactly, hash.length_eq]

end Hash160

namespace Hash256

def ofBytes? (bytes : Bytes) : Option Hash256 :=
  if h : bytes.length = 32 then some ⟨bytes, h⟩ else none

@[simp] theorem ofBytes?_bytes (hash : Hash256) : ofBytes? hash.bytes = some hash := by
  simp [ofBytes?, hash.length_eq]

theorem bytes_of_ofBytes? {bytes : Bytes} {hash : Hash256} (h : ofBytes? bytes = some hash) :
    hash.bytes = bytes := by
  simp only [ofBytes?] at h
  split at h
  · cases h
    rfl
  · cases h

/-- The last byte first, as transaction identifiers are shown. -/
def toReversedHex (hash : Hash256) : String := Hex.encode hash.bytes.reverse

end Hash256
end PaymentChannel
