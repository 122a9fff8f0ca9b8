import PaymentChannel.Channel.State
import PaymentChannel.Spend

/-! Witnesses signed with the keys of a channel. A witness for the deposit is made under the
channel's own deposit script, one for a commit under the script of that commit. -/
namespace PaymentChannel.Channel.State

structure Message where
  sighash : Hash256
  sighashType : SighashType

def signingInput (state : State) (message : Message) : SigningInput :=
  ⟨state.keys, message.sighash, message.sighashType⟩

def signDeposit (state : State) (message : Message) (spend : Spend) : Except Fault Script := do
  (← state.depositTerms).solve (state.signingInput message) spend

def signCommit (state : State) (message : Message) (script : Script) (spend : Spend) :
    Except Fault Script := do
  (← CommitTerms.ofScript script).solve (state.signingInput message) spend

def signTimeout (state : State) (message : Message) : Except Fault Script :=
  state.signDeposit message .timeout

def signChange (state : State) (message : Message) : Except Fault Script := do
  state.signDeposit message (.change (← state.requireSpendSecret))

def signCreateCommit (state : State) (message : Message) : Except Fault Script :=
  state.signDeposit message (.createCommit none)

def signFinalizeCommit (state : State) (message : Message) (existing : Script) :
    Except Fault Script :=
  state.signDeposit message (.finalizeCommit existing)

def signPayout (state : State) (message : Message) (script : Script) : Except Fault Script := do
  state.signCommit message script (.payout (← state.requireSpendSecret))

def signRevoke (state : State) (message : Message) (commit : Commit) : Except Fault Script :=
  match commit.revokeSecret with
  | some secret => state.signCommit message commit.script (.revoke secret)
  | none => .error (.notRevoked commit.transaction.txid)

end PaymentChannel.Channel.State
