import PaymentChannel.Ecdsa.Encoding
import PaymentChannel.Secret
import PaymentChannel.Template

/-! Witnesses that spend the outputs of a channel, in script form: the words that one branch of a
template takes from the stack. The script that is spent is not part of them. -/
namespace PaymentChannel

/-- A way to spend an output, with what it takes besides signatures. -/
inductive Spend
  | timeout
  | change (spendSecret : Secret)
  /-- The payer's half of a joint spend, with what stands for the payee's signature. -/
  | createCommit (standIn : Option Bytes)
  /-- The whole of a joint spend, from the payer's half. -/
  | finalizeCommit (existing : Script)
  | payout (spendSecret : Secret)
  | revoke (revokeSecret : Secret)

def Spend.path : Spend → SpendPath
  | .timeout => .timeout
  | .change _ => .change
  | .createCommit _ => .createCommit
  | .finalizeCommit _ => .finalizeCommit
  | .payout _ => .payout
  | .revoke _ => .revoke

structure SigningInput where
  keys : List SecretKey
  sighash : Hash256
  sighashType : SighashType

namespace SigningInput

def keyFor? (input : SigningInput) (key : PublicKey) : Option SecretKey :=
  input.keys.find? (·.publicKey = key)

/-- The signature by the holder of `key`, as scripts hold it. -/
def sign (input : SigningInput) (key : PublicKey) : Except Fault Bytes :=
  match input.keyFor? key with
  | some secretKey =>
    .ok ((Signature.sign secretKey input.sighash).toScriptBytes input.sighashType)
  | none => .error (.noSecretKey key)

end SigningInput

namespace Witness

/-- As long as a signature can be. -/
def standInLength : Nat := 72

def standIn : Bytes := List.replicate standInLength 0

/-- The word that pushes `data`, whose length has to fit the widest length field. -/
def push (data : Bytes) : Except Fault Word :=
  if data.length < 0x100000000 then .ok (.push data) else .error (.pushTooLong data.length)

def zero : Word := .op Opcode.zero

def one : Word := .op Opcode.one

/-- The payer's signature in the witness of a joint spend, after a check of its form and of the
signature. -/
def payerSignature (terms : DepositTerms) (input : SigningInput) (existing : Script) :
    Except Fault Bytes := do
  if (← existing.word 0).opcode ≠ Opcode.zero then throw .witnessStart
  if Script.itemCount existing ≠ 4 then throw .witnessShape
  if (← existing.word 3).opcode ≠ Opcode.one then throw .witnessShape
  let bytes := (← existing.word 1).data
  match Signature.ofScriptBytes? bytes with
  | none => throw .payerSignatureMalformed
  | some (sig, sighashType) =>
    if sighashType ≠ input.sighashType then
      throw (.payerSignatureType sighashType input.sighashType)
    if !sig.verify terms.payer input.sighash then throw .payerSignatureInvalid
    return bytes

end Witness

namespace DepositTerms
open Witness

def solve (terms : DepositTerms) (input : SigningInput) : Spend → Except Fault Script
  | .timeout => do
    let sig ← push (← input.sign terms.payer)
    return Script.ofWords [sig, zero, zero]
  | .change spendSecret => do
    if spendSecret.hash ≠ terms.spendHash then throw (.changeSecretMismatch terms.spendHash)
    let sig ← push (← input.sign terms.payer)
    let secret ← push spendSecret.bytes
    return Script.ofWords [sig, secret, one, zero]
  | .createCommit given => do
    let sig ← push (← input.sign terms.payer)
    let other ← push (given.getD standIn)
    return Script.ofWords [zero, sig, other, one]
  | .finalizeCommit existing => do
    let payer ← payerSignature terms input existing
    let payee ← input.sign terms.payee
    return Script.ofWords [zero, ← push payer, ← push payee, one]
  | spend => .error (.wrongTemplate spend.path .deposit)

end DepositTerms

namespace CommitTerms
open Witness

def solve (terms : CommitTerms) (input : SigningInput) : Spend → Except Fault Script
  | .payout spendSecret => do
    let sig ← push (← input.sign terms.payee)
    let secret ← push spendSecret.bytes
    return Script.ofWords [sig, secret, one]
  | .revoke revokeSecret => do
    let sig ← push (← input.sign terms.payer)
    let secret ← push revokeSecret.bytes
    return Script.ofWords [sig, secret, zero]
  | spend => .error (.wrongTemplate spend.path .commit)

end CommitTerms

def Template.solve (template : Template) (input : SigningInput) (spend : Spend) :
    Except Fault Script :=
  match template with
  | .deposit terms => terms.solve input spend
  | .commit terms => terms.solve input spend

end PaymentChannel
