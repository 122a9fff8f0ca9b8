import PaymentChannel.Channel.Deposit
import PaymentChannel.Channel.Signing
import PaymentChannel.Channel.Storage

/-! All that can be asked of a channel, as one type of requests, each with the type of its answer. A
history of a channel is a list of them. -/
namespace PaymentChannel

structure Channel where
  config : Channel.Config := {}
  state : Channel.State := {}

namespace Channel
open State (Message)

inductive Request
  | save
  | load (snapshot : Snapshot)
  | clear
  | setPayerKey (key : SecretKey)
  | setPayeeKey (key : SecretKey)
  | setDeposit (script : Script) (tx : Transaction)
  | setTimeoutTransaction (tx : Transaction)
  | setChangeTransaction (tx : Transaction)
  | setSpendSecret (secret : Secret)
  | requestCommit (secret : Secret)
  | addCommit (tx : Transaction) (script : Script)
  | revoke (secret : Secret)
  | revokeAll (secrets : List Secret)
  | depositConfirmations
  | timeoutConfirmations
  | changeConfirmations
  | expireTime
  | spendHash
  | isDepositConfirmed
  | isDepositExpired
  | isTimeoutConfirmed
  | isChangeConfirmed
  | isClosing
  | isClosed
  | transferredAmount
  | depositTotal
  | depositRemaining
  | validateTransfer (quantity : UInt64)
  | requestedCommits
  | activeCommits
  | revokedCommits
  | makeDepositScript (payee : PublicKey) (spendHash : Hash160) (expireTime : Option UInt16)
  | makeCommitScript (revokeHash : Hash160) (delayTime : Option UInt16)
  | signTimeout (message : Message)
  | signChange (message : Message)
  | signCreateCommit (message : Message)
  | signFinalizeCommit (existing : Script) (message : Message)
  | signPayout (script : Script) (message : Message)
  | signRevoke (commit : Commit) (message : Message)

namespace Request

abbrev Answer : Request → Type
  | load _ | clear | setPayerKey _ | setPayeeKey _ | setDeposit .. | setTimeoutTransaction _
  | setChangeTransaction _ | setSpendSecret _ | requestCommit _ | addCommit ..
  | validateTransfer _ => Unit
  | save => Snapshot
  | revoke _ => Option Commit
  | revokeAll _ => List (Option Commit)
  | depositConfirmations | timeoutConfirmations | changeConfirmations => UInt32
  | expireTime => UInt16
  | spendHash => Hash160
  | isDepositConfirmed | isDepositExpired | isTimeoutConfirmed | isChangeConfirmed | isClosing
  | isClosed => Bool
  | transferredAmount | depositTotal | depositRemaining => UInt64
  | requestedCommits => List Secret
  | activeCommits | revokedCommits => List Commit
  | makeDepositScript .. | makeCommitScript .. | signTimeout _ | signChange _ | signCreateCommit _
  | signFinalizeCommit .. | signPayout .. | signRevoke .. => Script

end Request

namespace Action

/-- What the present state gives, with no question to the oracle. -/
def view (f : State → Except Fault α) : Action σ α := do f (← getState)

def update (f : State → Except Fault State) : Action σ Unit := do setState (← f (← getState))

def modifyState (f : State → State) : Action σ Unit := do setState (f (← getState))

end Action

def serve (oracle : Oracle σ) (config : Config) : (request : Request) → Action σ request.Answer
  | .save => Action.save oracle
  | .load snapshot => Action.load oracle snapshot
  | .clear => Action.setState {}
  | .setPayerKey key => Action.update (·.setPayerKey key)
  | .setPayeeKey key => Action.update (·.setPayeeKey key)
  | .setDeposit script tx => Action.update (·.setDeposit script tx)
  | .setTimeoutTransaction tx => Action.modifyState (·.setTimeoutTransaction tx)
  | .setChangeTransaction tx => Action.modifyState (·.setChangeTransaction tx)
  | .setSpendSecret secret => Action.modifyState (·.setSpendSecret secret)
  | .requestCommit secret => Action.modifyState (·.requestCommit secret)
  | .addCommit tx script => Action.addCommit oracle tx script
  | .revoke secret => Action.revoke secret
  | .revokeAll secrets => Action.revokeAll secrets
  | .depositConfirmations => Action.ask (State.depositConfirmations oracle)
  | .timeoutConfirmations => Action.ask (State.timeoutConfirmations oracle)
  | .changeConfirmations => Action.ask (State.changeConfirmations oracle)
  | .expireTime => Action.view State.expireTime
  | .spendHash => Action.view State.spendHash
  | .isDepositConfirmed => Action.ask (State.isDepositConfirmed oracle)
  | .isDepositExpired => Action.ask (State.isDepositExpired oracle)
  | .isTimeoutConfirmed => Action.ask (State.isTimeoutConfirmed oracle)
  | .isChangeConfirmed => Action.ask (State.isChangeConfirmed oracle)
  | .isClosing => Action.ask (State.isClosing oracle)
  | .isClosed => Action.ask (State.isClosed oracle)
  | .transferredAmount => Action.transferredAmount oracle
  | .depositTotal => Action.ask (State.depositTotal oracle)
  | .depositRemaining => Action.depositRemaining oracle
  | .validateTransfer quantity => Action.validateTransfer oracle quantity
  | .requestedCommits => return (← Action.getState).requested
  | .activeCommits => Action.activeCommits oracle
  | .revokedCommits => return (← Action.getState).revoked
  | .makeDepositScript payee spendHash expireTime =>
    Action.view (·.makeDepositScript config payee spendHash expireTime)
  | .makeCommitScript revokeHash delayTime =>
    Action.view (·.makeCommitScript config revokeHash delayTime)
  | .signTimeout message => Action.view (·.signTimeout message)
  | .signChange message => Action.view (·.signChange message)
  | .signCreateCommit message => Action.view (·.signCreateCommit message)
  | .signFinalizeCommit existing message => Action.view (·.signFinalizeCommit message existing)
  | .signPayout script message => Action.view (·.signPayout message script)
  | .signRevoke commit message => Action.view (·.signRevoke message commit)

end Channel
end PaymentChannel
