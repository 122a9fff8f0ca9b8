import PaymentChannel.Hash.Digest

/-! Secrets: byte strings that scripts commit to by their digests. Only the digest is shown. -/
namespace PaymentChannel

structure Secret where
  bytes : Bytes
deriving DecidableEq

namespace Secret

def hash (secret : Secret) : Hash160 := hash160 secret.bytes

def text (secret : Secret) : String := s!"Secret(hash160={secret.hash.toHex})"

def toHex (secret : Secret) : String := Hex.encode secret.bytes

def ofHex? (text : String) : Option Secret :=
  match Hex.decode text with
  | .ok bytes => some ⟨bytes⟩
  | .error _ => none

@[simp] theorem ofHex?_toHex (secret : Secret) : ofHex? secret.toHex = some secret := by
  simp [ofHex?, toHex]

end Secret
end PaymentChannel
