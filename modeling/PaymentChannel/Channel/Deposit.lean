import PaymentChannel.Channel.State

/-! The keys, the secret and the deposit of a channel. They can be set in any order; whichever comes
later has to agree with what is there, except that a spend secret or a closing transaction is taken
as it is. -/
namespace PaymentChannel.Channel.State

def checkKey (key : SecretKey) (expected : PublicKey) : Except Fault Unit :=
  if key.publicKey = expected then .ok () else .error (.keyMismatch key.publicKey expected)

def setPayerKey (state : State) (key : SecretKey) : Except Fault State := do
  if state.depositScript.isSome then checkKey key (← state.depositTerms).payer
  return { state with payerKey := some key }

def setPayeeKey (state : State) (key : SecretKey) : Except Fault State := do
  if state.depositScript.isSome then checkKey key (← state.depositTerms).payee
  return { state with payeeKey := some key }

/-- A deposit that is set can only be set again to what it is. -/
def setDeposit (state : State) (script : Script) (tx : Transaction) : Except Fault State := do
  let terms ← DepositTerms.ofScript script
  if state.depositScript.any (· != script) || state.depositTransaction.any (· != tx) then
    throw .depositAlreadySet
  state.payerKey.forM (checkKey · terms.payer)
  state.payeeKey.forM (checkKey · terms.payee)
  if state.spendSecret.any (·.hash != terms.spendHash) then
    throw (.depositSecretMismatch terms.spendHash)
  return { state with depositScript := some script, depositTransaction := some tx }

def setTimeoutTransaction (state : State) (tx : Transaction) : State :=
  { state with timeoutTransaction := some tx }

def setChangeTransaction (state : State) (tx : Transaction) : State :=
  { state with changeTransaction := some tx }

def setSpendSecret (state : State) (secret : Secret) : State :=
  { state with spendSecret := some secret }

/-- Notes a secret whose commit the payer is asked for. -/
def requestCommit (state : State) (secret : Secret) : State :=
  { state with requested := state.requested ++ [secret] }

def makeDepositScript (state : State) (config : Config) (payee : PublicKey) (spendHash : Hash160)
    (expireTime : Option UInt16) : Except Fault Script :=
  match state.payerKey with
  | some key =>
    let terms : DepositTerms :=
      ⟨key.publicKey, payee, spendHash, expireTime.getD config.expireTime⟩
    .ok terms.toScript
  | none => .error .notPayer

def makeCommitScript (state : State) (config : Config) (revokeHash : Hash160)
    (delayTime : Option UInt16) : Except Fault Script := do
  let deposit ← state.depositTerms
  let terms : CommitTerms := ⟨deposit.payer, deposit.payee, deposit.spendHash, revokeHash,
    delayTime.getD config.delayTime⟩
  return terms.toScript

end PaymentChannel.Channel.State
