import PaymentChannel.Channel.State

/-! What is stored of a channel: every field of its state, as it was given. Only restoring checks
that the scripts are those of a channel and that revoke secrets are the ones their scripts name, so
that the snapshot of a restored state is the snapshot restored. -/
namespace PaymentChannel
open Channel (Commit State)

structure Snapshot where
  payerKey : Option SecretKey
  payeeKey : Option SecretKey
  spendSecret : Option Secret
  depositScript : Option Script
  depositTransaction : Option Transaction
  timeoutTransaction : Option Transaction
  changeTransaction : Option Transaction
  requested : List Secret
  active : List Commit
  revoked : List Commit
deriving DecidableEq

namespace Snapshot

def ofState (state : State) : Snapshot where
  payerKey := state.payerKey
  payeeKey := state.payeeKey
  spendSecret := state.spendSecret
  depositScript := state.depositScript
  depositTransaction := state.depositTransaction
  timeoutTransaction := state.timeoutTransaction
  changeTransaction := state.changeTransaction
  requested := state.requested
  active := state.active
  revoked := state.revoked

def checkDeposit (script : Script) : Except Fault Unit :=
  match DepositTerms.ofScript script with
  | .ok _ => .ok ()
  | .error cause => .error (.storedDeposit cause)

def checkCommit (commit : Commit) : Except Fault Unit :=
  match CommitTerms.ofScript commit.script with
  | .error cause => .error (.storedCommit cause)
  | .ok terms =>
    match commit.revokeSecret with
    | some secret =>
      if secret.hash = terms.revokeHash then .ok ()
      else .error (.storedSecretMismatch terms.revokeHash)
    | none => .ok ()

def check (snapshot : Snapshot) : Except Fault Unit := do
  snapshot.depositScript.forM checkDeposit
  snapshot.active.forM checkCommit
  snapshot.revoked.forM checkCommit

/-- The fields, unchecked. -/
def toState (snapshot : Snapshot) : State where
  payerKey := snapshot.payerKey
  payeeKey := snapshot.payeeKey
  spendSecret := snapshot.spendSecret
  depositScript := snapshot.depositScript
  depositTransaction := snapshot.depositTransaction
  timeoutTransaction := snapshot.timeoutTransaction
  changeTransaction := snapshot.changeTransaction
  requested := snapshot.requested
  active := snapshot.active
  revoked := snapshot.revoked

def restore (snapshot : Snapshot) : Except Fault State := do
  snapshot.check
  return snapshot.toState

@[simp] theorem ofState_toState (snapshot : Snapshot) : ofState snapshot.toState = snapshot := rfl

@[simp] theorem toState_ofState (state : State) : (ofState state).toState = state := rfl

end Snapshot
end PaymentChannel
