import PaymentChannel.Bytes

/-! What the digests share: a message is padded to whole blocks of 64 bytes, each block is read as
sixteen words of 32 bits, and a digest is written as its words one after the other. -/
namespace PaymentChannel.Hash

def rotateLeft (w n : UInt32) : UInt32 := (w <<< n) ||| (w >>> (32 - n))

def rotateRight (w n : UInt32) : UInt32 := (w >>> n) ||| (w <<< (32 - n))

/-- A one bit and as few zero bytes as leave room for the eight bytes of `lengthField` at the end of
the last block. -/
def pad (lengthField message : Bytes) : Bytes :=
  let zeros := (119 - message.length % 64) % 64
  message ++ 0x80 :: List.replicate zeros 0 ++ lengthField

/-- The first `count` pieces of 64 bytes. -/
def blocks : Nat → Bytes → List Bytes
  | 0, _ => []
  | count + 1, bytes => bytes.take 64 :: blocks count (bytes.drop 64)

def paddedBlocks (lengthField message : Bytes) : List Bytes :=
  let padded := pad lengthField message
  blocks (padded.length / 64) padded

/-- Words of four bytes, most significant byte first. -/
def wordsBE : Bytes → List UInt32
  | a :: b :: c :: d :: rest =>
    ((a.toUInt32 <<< 24) ||| (b.toUInt32 <<< 16) ||| (c.toUInt32 <<< 8) ||| d.toUInt32)
      :: wordsBE rest
  | _ => []

/-- Words of four bytes, least significant byte first. -/
def wordsLE : Bytes → List UInt32
  | a :: b :: c :: d :: rest =>
    (a.toUInt32 ||| (b.toUInt32 <<< 8) ||| (c.toUInt32 <<< 16) ||| (d.toUInt32 <<< 24))
      :: wordsLE rest
  | _ => []

def wordBytesBE (w : UInt32) : Bytes :=
  [(w >>> 24).toUInt8, (w >>> 16).toUInt8, (w >>> 8).toUInt8, w.toUInt8]

def wordBytesLE (w : UInt32) : Bytes :=
  [w.toUInt8, (w >>> 8).toUInt8, (w >>> 16).toUInt8, (w >>> 24).toUInt8]

/-- Every padded message is made of whole blocks. -/
theorem length_pad (lengthField message : Bytes) (h : lengthField.length = 8) :
    (pad lengthField message).length % 64 = 0 := by
  simp only [pad, List.length_append, List.length_cons, List.length_replicate, h]
  omega

end PaymentChannel.Hash
