import PaymentChannel.Hash.Digest
import PaymentChannel.Script.Word

/-! Transactions: what they spend, with the witnesses that allow it, and what they pay. Two
transactions are equal only when their witnesses are. -/
namespace PaymentChannel

abbrev Txid := Hash256

structure OutPoint where
  txid : Txid
  index : UInt32
deriving DecidableEq

structure TxInput where
  previous : OutPoint
  script : Script
  sequence : UInt32
  witness : List Bytes
deriving DecidableEq

structure TxOutput where
  value : UInt64
  script : Script
deriving DecidableEq

structure Transaction where
  version : UInt32
  inputs : List TxInput
  outputs : List TxOutput
  lockTime : UInt32
deriving DecidableEq

namespace Transaction

/-- A transaction that spends output `index` of no known transaction and pays `value` to the empty
script: a stand-in, told apart by its two numbers. -/
def placeholder (index : UInt32) (value : UInt64) : Transaction where
  version := 2
  inputs := [⟨⟨⟨List.replicate 32 0, rfl⟩, index⟩, [], 0, []⟩]
  outputs := [⟨value, []⟩]
  lockTime := 0

def hasWitness (tx : Transaction) : Bool := tx.inputs.any fun input => !input.witness.isEmpty

end Transaction
end PaymentChannel
