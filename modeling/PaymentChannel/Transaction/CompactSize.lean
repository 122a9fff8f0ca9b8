import PaymentChannel.Bytes

/-! Counts in front of lists: one byte, or a marker and two, four or eight bytes, always the
shortest form that holds the number. Readers take from the front of a byte string. -/
namespace PaymentChannel

/-- A value read from the front of a byte string, and the rest. -/
abbrev ByteReader (α : Type) := StateT Bytes Option α

namespace ByteReader

/-- The next `count` bytes, all of which must be there. -/
def take (count : Nat) : ByteReader Bytes := fun bytes =>
  let taken := bytes.take count
  if taken.length = count then some (taken, bytes.drop count) else none

def byte : ByteReader UInt8 := fun bytes =>
  match bytes with
  | [] => none
  | b :: rest => some (b, rest)

/-- A number in `width` bytes, least significant first. -/
def natLE (width : Nat) : ByteReader Nat := return Bytes.toNatLE (← take width)

def times (read : ByteReader α) : Nat → ByteReader (List α)
  | 0 => return []
  | count + 1 => do
    let first ← read
    let rest ← times read count
    return first :: rest

def forEach (items : List α) (read : α → ByteReader β) : ByteReader (List β) := items.mapM read

def run? (read : ByteReader α) (bytes : Bytes) : Option α :=
  match read bytes with
  | some (value, []) => some value
  | _ => none

end ByteReader

namespace CompactSize

def encode (n : Nat) : Bytes :=
  if n < 0xfd then [UInt8.ofNat n]
  else if n < 0x10000 then 0xfd :: Bytes.ofNatLE 2 n
  else if n < 0x100000000 then 0xfe :: Bytes.ofNatLE 4 n
  else 0xff :: Bytes.ofNatLE 8 n

/-- A number behind a marker, which has to be too large for any shorter form. -/
def wide (width least : Nat) : ByteReader Nat := do
  let n ← ByteReader.natLE width
  if n < least then failure else return n

def read : ByteReader Nat := do
  let b ← ByteReader.byte
  if b = 0xfd then wide 2 0xfd
  else if b = 0xfe then wide 4 0x10000
  else if b = 0xff then wide 8 0x100000000
  else return b.toNat

end CompactSize
end PaymentChannel
