import PaymentChannel.Channel.State

/-! What is shown of a channel without its secrets: which keys there are, the terms of the deposit,
and for each commit what its script and transaction say. -/
namespace PaymentChannel.Channel

inductive Role
  | payer
  | payee
  | both
  | neither
deriving DecidableEq

namespace Role

def name : Role → String
  | .payer => "payer"
  | .payee => "payee"
  | .both => "both"
  | .neither => "none"

def ofKeys : (payerKey payeeKey : Option SecretKey) → Role
  | some _, some _ => .both
  | some _, none => .payer
  | none, some _ => .payee
  | none, none => .neither

end Role

structure CommitSummary where
  txid : Txid
  revokeHash : Hash160
  delayTime : UInt16
deriving DecidableEq

structure Summary where
  role : Role
  spendSecretKnown : Bool
  deposit : Option DepositTerms
  depositTxid : Option Txid
  timeoutTxid : Option Txid
  changeTxid : Option Txid
  requestedCount : Nat
  active : List CommitSummary
  revoked : List CommitSummary
deriving DecidableEq

namespace CommitSummary

def ofCommit (commit : Commit) : Except Fault CommitSummary := do
  let terms ← CommitTerms.ofScript commit.script
  return ⟨commit.transaction.txid, terms.revokeHash, terms.delayTime⟩

def toJson (summary : CommitSummary) : Json := .record [
  ("txid", .string summary.txid.toReversedHex),
  ("revoke_secret_hash", .string summary.revokeHash.toHex),
  ("delay_time", .nat summary.delayTime.toNat)]

end CommitSummary

namespace Summary

def depositOf : Option Script → Except Fault (Option DepositTerms)
  | some script => some <$> DepositTerms.ofScript script
  | none => .ok none

def ofState (state : State) : Except Fault Summary := do
  let deposit ← depositOf state.depositScript
  let active ← state.active.mapM CommitSummary.ofCommit
  let revoked ← state.revoked.mapM CommitSummary.ofCommit
  return {
    role := .ofKeys state.payerKey state.payeeKey
    spendSecretKnown := state.spendSecret.isSome
    deposit
    depositTxid := state.depositTransaction.map (·.txid)
    timeoutTxid := state.timeoutTransaction.map (·.txid)
    changeTxid := state.changeTransaction.map (·.txid)
    requestedCount := state.requested.length
    active
    revoked }

def toJson (summary : Summary) : Json := .record [
  ("role", .string summary.role.name),
  ("spend_secret_known", .boolean summary.spendSecretKnown),
  ("deposit", .option (·.toJson) summary.deposit),
  ("deposit_txid", .option (.string ·.toReversedHex) summary.depositTxid),
  ("timeout_txid", .option (.string ·.toReversedHex) summary.timeoutTxid),
  ("change_txid", .option (.string ·.toReversedHex) summary.changeTxid),
  ("commits_requested", .nat summary.requestedCount),
  ("commits_active", .list (summary.active.map (·.toJson))),
  ("commits_revoked", .list (summary.revoked.map (·.toJson)))]

end Summary
end PaymentChannel.Channel
