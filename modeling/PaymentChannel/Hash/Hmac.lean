import PaymentChannel.Hash.Sha256

/-! Keyed digests: HMAC over SHA-256. -/
namespace PaymentChannel.Hash

/-- The key filled with zeros to a block, after hashing where it is longer than one. -/
def hmacKey (key : Bytes) : Bytes :=
  let short := if key.length > 64 then sha256 key else key
  short ++ List.replicate (64 - short.length) 0

def hmacSha256 (key message : Bytes) : Bytes :=
  let block := hmacKey key
  let inner := sha256 (block.map (· ^^^ 0x36) ++ message)
  sha256 (block.map (· ^^^ 0x5c) ++ inner)

@[simp] theorem length_hmacSha256 (key message : Bytes) : (hmacSha256 key message).length = 32 := rfl

end PaymentChannel.Hash
