import PaymentChannel.Outcome
import PaymentChannel.Script.Number
import PaymentChannel.Template.Field

/-! The script that a commitment pays the payee's part to:

  IF delayTime CHECKSEQUENCEVERIFY DROP HASH160 spendHash EQUALVERIFY payee CHECKSIG
  ELSE HASH160 revokeHash EQUALVERIFY payer CHECKSIG
  ENDIF

The payee spends it with the spend secret once the delay has passed, the payer with the revoke
secret at any time. A script is one of these exactly when it is what its terms give. -/
namespace PaymentChannel

structure CommitTerms where
  payer : PublicKey
  payee : PublicKey
  spendHash : Hash160
  revokeHash : Hash160
  delayTime : UInt16
deriving DecidableEq

namespace CommitTerms

def words (terms : CommitTerms) : List Word := [
  .op Opcode.ifTrue,
    Script.numberWord terms.delayTime.toNat, .op Opcode.checkSequenceVerify, .op Opcode.drop,
    .op Opcode.hash160, .push terms.spendHash.bytes, .op Opcode.equalVerify,
    .push terms.payee.toBytes, .op Opcode.checkSig,
  .op Opcode.otherwise,
    .op Opcode.hash160, .push terms.revokeHash.bytes, .op Opcode.equalVerify,
    .push terms.payer.toBytes, .op Opcode.checkSig,
  .op Opcode.endIf]

def toScript (terms : CommitTerms) : Script := Script.ofWords terms.words

def delayTimeAt (script : Script) : Except Fault UInt16 := script.sequenceAt 1

def spendHashAt (script : Script) : Except Fault Hash160 := script.hash160At 5

def payeeAt (script : Script) : Except Fault PublicKey := script.publicKeyAt 7

def revokeHashAt (script : Script) : Except Fault Hash160 := script.hash160At 11

def payerAt (script : Script) : Except Fault PublicKey := script.publicKeyAt 13

def ofScript (script : Script) : Except Fault CommitTerms := do
  let payer ← payerAt script
  let payee ← payeeAt script
  let spendHash ← spendHashAt script
  let revokeHash ← revokeHashAt script
  let delayTime ← delayTimeAt script
  let terms : CommitTerms := ⟨payer, payee, spendHash, revokeHash, delayTime⟩
  if terms.toScript = script then return terms else throw (.notCommit script)

theorem toScript_of_ofScript {script : Script} {terms : CommitTerms}
    (ok : ofScript script = .ok terms) : terms.toScript = script := by
  simp only [ofScript, Outcome.bind_eq_ok, Outcome.ite_eq_ok] at ok
  obtain ⟨_, _, _, _, _, _, _, _, _, _, same, rfl⟩ := ok
  exact same

end CommitTerms
end PaymentChannel
