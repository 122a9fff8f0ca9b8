import PaymentChannel.Fault

/-! What templates keep in the words of a script: public keys, digests and relative timelocks, each
found by the index of its word. -/
namespace PaymentChannel

/-- The largest relative timelock, in blocks. -/
def maxSequence : Nat := 0xffff

namespace Script

/-- The word at an index. A cut script has the words before the cut, and none from there on. -/
def word (script : Script) (index : Nat) : Except Fault Word :=
  let (words, ending) := walk script
  match words[index]? with
  | some word => .ok word
  | none =>
    if ending = .complete then .error (.wordOutOfRange index) else .error (.wordCut words.length)

/-- The number that a word stands for, before its range is checked. A direct push is an unsigned
little-endian number, of no more bytes than the register takes. -/
def sequenceNumber (word : Word) : Except Fault UInt64 :=
  let opcode := word.opcode.toNat
  if opcode = 0 then .ok 0
  else if opcode ≤ 0x4b then
    if 8 < word.data.length then .error (.sequenceTooLong word.data.length)
    else .ok (Bytes.toUInt64LE word.data)
  else if 0x51 ≤ opcode ∧ opcode ≤ 0x60 then .ok (word.opcode - Opcode.one + 1).toUInt64
  else .error (.notSequence word)

/-- The timelock that a word stands for. -/
def sequenceValue (word : Word) : Except Fault UInt16 := do
  let value ← sequenceNumber word
  if maxSequence < value.toNat then throw (.sequenceTooLarge value.toNat)
  return value.toUInt16

def publicKeyAt (script : Script) (index : Nat) : Except Fault PublicKey := do
  let word ← script.word index
  match PublicKey.ofBytes? word.data with
  | some key => return key
  | none => throw (.notPublicKey index word)

def hash160At (script : Script) (index : Nat) : Except Fault Hash160 := do
  let word ← script.word index
  match Hash160.ofBytes? word.data with
  | some hash => return hash
  | none => throw (.notHash160 index word)

def sequenceAt (script : Script) (index : Nat) : Except Fault UInt16 := do
  sequenceValue (← script.word index)

end Script
end PaymentChannel
