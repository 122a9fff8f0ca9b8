import PaymentChannel.Proofs.Script.Lock
import PaymentChannel.Proofs.Template.Recognition

/-! The ways to open the outputs of a channel. Which of the locks in a template is tried is told by
the elements on top of the stack; below them is what the lock takes. -/
namespace PaymentChannel
open Machine

variable (context : Context)

namespace DepositTerms

variable (terms : DepositTerms)

theorem words_eq : terms.words =
    branch (jointLock terms.payer terms.payee)
      (branch (secretLock terms.spendHash terms.payer)
        (timeLock terms.expireTime (keyLock terms.payer))) :=
  rfl

private theorem runScript_toScript {stack : List Bytes} {result : Option (List Bytes)}
    (computes : Computes context (branch (jointLock terms.payer terms.payee)
      (branch (secretLock terms.spendHash terms.payer)
        (timeLock terms.expireTime (keyLock terms.payer)))) stack result) :
    runScript context terms.toScript stack = result :=
  runScript_ofWords terms.isWellFormed_words (terms.words_eq ▸ computes)

private theorem skips_single : Skips context (branch (secretLock terms.spendHash terms.payer)
    (timeLock terms.expireTime (keyLock terms.payer))) :=
  skips_branch (skips_secretLock _ _) (skips_timeLock _ (skips_keyLock _))

theorem run_timeout (sig : Bytes) : runScript context terms.toScript [[], [], sig] =
    if terms.expireTime.toNat ≤ context.age then
      some [ofBool (isSignedBy context terms.payer.toBytes sig)] else none := by
  apply runScript_toScript
  refine computes_branch (skips_jointLock _ _) (skips_single context terms) ?_
  refine computes_branch (skips_secretLock _ _) (skips_timeLock _ (skips_keyLock _)) ?_
  exact computes_timeLock terms.expireTime (computes_keyLock terms.payer sig)

theorem run_change (secret sig : Bytes) : runScript context terms.toScript [[], [1], secret, sig] =
    if hash160 secret = terms.spendHash then
      some [ofBool (isSignedBy context terms.payer.toBytes sig)] else none := by
  apply runScript_toScript
  refine computes_branch (skips_jointLock _ _) (skips_single context terms) ?_
  refine computes_branch (skips_secretLock _ _) (skips_timeLock _ (skips_keyLock _)) ?_
  exact computes_secretLock terms.spendHash terms.payer secret sig

theorem run_joint (payerSig payeeSig : Bytes) :
    runScript context terms.toScript [[1], payeeSig, payerSig, []] =
      some [ofBool (areSignedInOrder context [payeeSig, payerSig]
        [terms.payee.toBytes, terms.payer.toBytes])] := by
  apply runScript_toScript
  refine computes_branch (skips_jointLock _ _) (skips_single context terms) ?_
  exact computes_jointLock terms.payer terms.payee payerSig payeeSig

end DepositTerms

namespace CommitTerms

variable (terms : CommitTerms)

theorem words_eq : terms.words =
    branch (timeLock terms.delayTime (secretLock terms.spendHash terms.payee))
      (secretLock terms.revokeHash terms.payer) :=
  rfl

private theorem runScript_toScript {top : Bytes} {stack : List Bytes}
    {result : Option (List Bytes)} (chosen : Computes context (if asBool top then
        timeLock terms.delayTime (secretLock terms.spendHash terms.payee)
      else secretLock terms.revokeHash terms.payer) stack result) :
    runScript context terms.toScript (top :: stack) = result := by
  refine runScript_ofWords terms.isWellFormed_words (terms.words_eq ▸ ?_)
  exact computes_branch (skips_timeLock _ (skips_secretLock _ _)) (skips_secretLock _ _) chosen

theorem run_payout (secret sig : Bytes) : runScript context terms.toScript [[1], secret, sig] =
    if terms.delayTime.toNat ≤ context.age then
      if hash160 secret = terms.spendHash then
        some [ofBool (isSignedBy context terms.payee.toBytes sig)] else none
    else none := by
  apply runScript_toScript
  exact computes_timeLock terms.delayTime
    (computes_secretLock terms.spendHash terms.payee secret sig)

theorem run_revoke (secret sig : Bytes) : runScript context terms.toScript [[], secret, sig] =
    if hash160 secret = terms.revokeHash then
      some [ofBool (isSignedBy context terms.payer.toBytes sig)] else none := by
  apply runScript_toScript
  exact computes_secretLock terms.revokeHash terms.payer secret sig

end CommitTerms
end PaymentChannel
