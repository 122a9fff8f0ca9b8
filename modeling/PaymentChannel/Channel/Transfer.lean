import PaymentChannel.Channel.Action

/-! How much has moved to the payee. The transferred amount is the greatest quantity of an active
commit; each new commit has to carry more, and none more than the deposit. Reading the amount puts
the active commits in ascending order of quantity. -/
namespace PaymentChannel.Channel.Action

variable (oracle : Oracle σ)

def orderActive : Action σ (List UInt64) := do
  let (quantities, state) ← ask (State.order oracle)
  setState state
  return quantities

/-- Zero where there is no active commit. -/
def transferredAmount : Action σ UInt64 := return (← orderActive oracle).getLast?.getD 0

def depositRemaining : Action σ UInt64 := do
  let total ← ask (State.depositTotal oracle)
  let transferred ← transferredAmount oracle
  if total < transferred then throw (.transferredAboveTotal transferred total)
  return total - transferred

/-- Whether a new commit can carry `quantity`. -/
def validateTransfer (quantity : UInt64) : Action σ Unit := do
  let transferred ← transferredAmount oracle
  if quantity ≤ transferred then throw (.notAboveTransferred quantity transferred)
  let total ← ask (State.depositTotal oracle)
  if total < quantity then throw (.aboveTotal quantity total)

def activeCommits : Action σ (List Commit) := do
  let _ ← orderActive oracle
  return (← getState).active

/-- Adds a signed commit of this channel's keys and spend secret. Its revoke hash has to be new, and
the first request for it is met. -/
def addCommit (tx : Transaction) (script : Script) : Action σ Unit := do
  let terms ← CommitTerms.ofScript script
  let state ← getState
  let deposit ← state.depositTerms
  if terms.payer ≠ deposit.payer ∨ terms.payee ≠ deposit.payee then throw .commitKeysMismatch
  if terms.spendHash ≠ deposit.spendHash then
    throw (.commitSpendHashMismatch terms.spendHash deposit.spendHash)
  if ← state.usesRevokeHash terms.revokeHash then throw (.revokeHashUsed terms.revokeHash)
  let quantity ← ask fun _ => State.quantityOf oracle tx
  validateTransfer oracle quantity
  let state ← getState
  setState { state with
    requested := state.requested.eraseP (·.hash == terms.revokeHash)
    active := state.active ++ [{ transaction := tx, script }] }

def revoke (secret : Secret) : Action σ (Option Commit) := do
  let (commit, state) ← (← getState).revoke secret
  setState state
  return commit

def revokeAll (secrets : List Secret) : Action σ (List (Option Commit)) := secrets.mapM revoke

end PaymentChannel.Channel.Action
