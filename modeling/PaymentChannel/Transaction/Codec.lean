import PaymentChannel.Transaction.Basic
import PaymentChannel.Transaction.CompactSize

/-! Transactions as byte strings. The form with witnesses puts a zero count and a flag before the
inputs; it is used when some input has a witness, and when there are no inputs, since a plain form
without inputs would read as the other. Reading accepts nothing that writing would not give, and no
witness above a fixed size. -/
namespace PaymentChannel.Transaction

def encodeBytes (bytes : Bytes) : Bytes := CompactSize.encode bytes.length ++ bytes

def encodeList (encode : α → Bytes) (items : List α) : Bytes :=
  CompactSize.encode items.length ++ items.flatMap encode

def encodeInput (input : TxInput) : Bytes :=
  input.previous.txid.bytes ++ Bytes.ofNatLE 4 input.previous.index.toNat ++
    encodeBytes input.script ++ Bytes.ofNatLE 4 input.sequence.toNat

def encodeOutput (output : TxOutput) : Bytes :=
  Bytes.ofNatLE 8 output.value.toNat ++ encodeBytes output.script

def encodePlain (tx : Transaction) : Bytes :=
  Bytes.ofNatLE 4 tx.version.toNat ++ encodeList encodeInput tx.inputs ++
    encodeList encodeOutput tx.outputs ++ Bytes.ofNatLE 4 tx.lockTime.toNat

def encodeWitnessed (tx : Transaction) : Bytes :=
  Bytes.ofNatLE 4 tx.version.toNat ++ [0, 1] ++ encodeList encodeInput tx.inputs ++
    encodeList encodeOutput tx.outputs ++
    tx.inputs.flatMap (fun input => encodeList encodeBytes input.witness) ++
    Bytes.ofNatLE 4 tx.lockTime.toNat

def encode (tx : Transaction) : Bytes :=
  if tx.inputs.isEmpty || tx.hasWitness then tx.encodeWitnessed else tx.encodePlain

/-- Witnesses do not enter the identifier. -/
def txid (tx : Transaction) : Txid := hash256 tx.encodePlain

def toHex (tx : Transaction) : String := Hex.encode tx.encode

open ByteReader

def readUInt32 : ByteReader UInt32 := return UInt32.ofNat (← natLE 4)

def readUInt64 : ByteReader UInt64 := return UInt64.ofNat (← natLE 8)

def readHash256 : ByteReader Hash256 := do
  match Hash256.ofBytes? (← take 32) with
  | some hash => return hash
  | none => failure

def readBytes : ByteReader Bytes := do take (← CompactSize.read)

def readList (read : ByteReader α) : ByteReader (List α) := do times read (← CompactSize.read)

/-- An input, whose witness stands elsewhere. -/
def readInput : ByteReader TxInput := do
  let txid ← readHash256
  let index ← readUInt32
  let script ← readBytes
  let sequence ← readUInt32
  return ⟨⟨txid, index⟩, script, sequence, []⟩

def readOutput : ByteReader TxOutput := do
  let value ← readUInt64
  let script ← readBytes
  return ⟨value, script⟩

/-- The most bytes that the witness of an input may take. -/
def maxWitnessSize : Nat := 4000000

/-- The bytes of the items of a witness, each with its length in front. -/
def witnessSize (witness : List Bytes) : Nat := (witness.flatMap encodeBytes).length

/-- A witness that is not too large. An item takes a byte at least, so that this limits their number
as well. -/
def readWitness : ByteReader (List Bytes) := do
  let witness ← readList readBytes
  if maxWitnessSize < witnessSize witness then failure else return witness

/-- What follows the flag. Where there are inputs, one of them has to have a witness. -/
def readWitnessed (version : UInt32) : ByteReader Transaction := do
  let inputs ← readList readInput
  let outputs ← readList readOutput
  let inputs ← forEach inputs fun input => return { input with witness := ← readWitness }
  if !inputs.isEmpty && inputs.all (·.witness.isEmpty) then failure
  else return ⟨version, inputs, outputs, ← readUInt32⟩

def read : ByteReader Transaction := do
  let version ← readUInt32
  let inputs ← readList readInput
  if inputs.isEmpty then
    if (← byte) = 1 then readWitnessed version else failure
  else
    let outputs ← readList readOutput
    return ⟨version, inputs, outputs, ← readUInt32⟩

def decode? (bytes : Bytes) : Option Transaction := read.run? bytes

end PaymentChannel.Transaction
