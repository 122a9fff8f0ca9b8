import PaymentChannel.Outcome
import PaymentChannel.Script.Number
import PaymentChannel.Template.Field

/-! The script that a channel is funded to:

  IF 2 payer payee 2 CHECKMULTISIG
  ELSE
    IF HASH160 spendHash EQUALVERIFY payer CHECKSIG
    ELSE expireTime CHECKSEQUENCEVERIFY DROP payer CHECKSIG ENDIF
  ENDIF

Both parties together spend it at any time; the payer alone with the spend secret, or once the
expire time has passed. A script is one of these exactly when it is what its terms give. -/
namespace PaymentChannel

structure DepositTerms where
  payer : PublicKey
  payee : PublicKey
  spendHash : Hash160
  expireTime : UInt16
deriving DecidableEq

namespace DepositTerms

def words (terms : DepositTerms) : List Word := [
  .op Opcode.ifTrue,
    Script.numberWord 2, .push terms.payer.toBytes, .push terms.payee.toBytes,
    Script.numberWord 2, .op Opcode.checkMultiSig,
  .op Opcode.otherwise,
    .op Opcode.ifTrue,
      .op Opcode.hash160, .push terms.spendHash.bytes, .op Opcode.equalVerify,
      .push terms.payer.toBytes, .op Opcode.checkSig,
    .op Opcode.otherwise,
      Script.numberWord terms.expireTime.toNat, .op Opcode.checkSequenceVerify, .op Opcode.drop,
      .push terms.payer.toBytes, .op Opcode.checkSig,
    .op Opcode.endIf,
  .op Opcode.endIf]

def toScript (terms : DepositTerms) : Script := Script.ofWords terms.words

def payerAt (script : Script) : Except Fault PublicKey := script.publicKeyAt 2

def payeeAt (script : Script) : Except Fault PublicKey := script.publicKeyAt 3

def spendHashAt (script : Script) : Except Fault Hash160 := script.hash160At 9

def expireTimeAt (script : Script) : Except Fault UInt16 := script.sequenceAt 14

def ofScript (script : Script) : Except Fault DepositTerms := do
  let payer ← payerAt script
  let payee ← payeeAt script
  let spendHash ← spendHashAt script
  let expireTime ← expireTimeAt script
  let terms : DepositTerms := ⟨payer, payee, spendHash, expireTime⟩
  if terms.toScript = script then return terms else throw (.notDeposit script)

theorem toScript_of_ofScript {script : Script} {terms : DepositTerms}
    (ok : ofScript script = .ok terms) : terms.toScript = script := by
  simp only [ofScript, Outcome.bind_eq_ok, Outcome.ite_eq_ok] at ok
  obtain ⟨_, _, _, _, _, _, _, _, same, rfl⟩ := ok
  exact same

end DepositTerms
end PaymentChannel
