import PaymentChannel.Channel.State

/-! Operations that ask an oracle. One that only asks is a function of the channel's state, and
cannot change it; an action may change the state, and what it changed before it was refused stays
changed. -/
namespace PaymentChannel.Channel

/-- Questions to an oracle whose own state is of type `σ`. -/
abbrev Ask (σ α : Type) := ExceptT Fault (StateM σ) α

/-- Asks one question; an answer that is a failure ends the operation. -/
def Ask.lookup (lookup : Lookup σ α) : Ask σ α := fun chain =>
  match lookup chain with
  | (.ok answer, chain) => (.ok answer, chain)
  | (.error error, chain) => (.error (.oracle error), chain)

structure Session (σ : Type) where
  state : State
  chain : σ

abbrev Action (σ α : Type) := ExceptT Fault (StateM (Session σ)) α

namespace Action

def getState : Action σ State := fun session => (.ok session.state, session)

def setState (state : State) : Action σ Unit := fun session => (.ok (), { session with state })

def ask (question : State → Ask σ α) : Action σ α := fun session =>
  let (result, chain) := question session.state session.chain
  (result, { session with chain })

end Action

namespace State

variable (oracle : Oracle σ)

def quantityOf (tx : Transaction) : Ask σ UInt64 := Ask.lookup (oracle.quantity tx)

def confirmationsOf (tx : Transaction) : Ask σ UInt32 := Ask.lookup (oracle.confirmations tx.txid)

/-- The quantities of the active commits in ascending order, and the state with the commits in that
order. All quantities are asked for first; commits of equal quantity keep their order. -/
def order (state : State) : Ask σ (List UInt64 × State) := do
  let quantities ← state.active.mapM fun commit => quantityOf oracle commit.transaction
  let sorted := (quantities.zip state.active).mergeSort fun a b => a.1 ≤ b.1
  return (sorted.map (·.1), { state with active := sorted.map (·.2) })

def depositTotal (state : State) : Ask σ UInt64 := do
  quantityOf oracle (← state.requireDepositTransaction)

/-- Confirmations count only where the deposit's script is known too. -/
def depositConfirmations (state : State) : Ask σ UInt32 := do
  let _ ← state.requireDepositScript
  confirmationsOf oracle (← state.requireDepositTransaction)

def timeoutConfirmations (state : State) : Ask σ UInt32 :=
  match state.timeoutTransaction with
  | some tx => confirmationsOf oracle tx
  | none => throw .noTimeoutTransaction

def changeConfirmations (state : State) : Ask σ UInt32 :=
  match state.changeTransaction with
  | some tx => confirmationsOf oracle tx
  | none => throw .noChangeTransaction

def isDepositConfirmed (state : State) : Ask σ Bool :=
  return 0 < (← state.depositConfirmations oracle)

/-- Whether the payer can take the deposit back without the payee. -/
def isDepositExpired (state : State) : Ask σ Bool := do
  let expireTime ← state.expireTime
  return expireTime.toNat ≤ (← state.depositConfirmations oracle).toNat

def isTimeoutConfirmed (state : State) : Ask σ Bool :=
  return 0 < (← state.timeoutConfirmations oracle)

def isChangeConfirmed (state : State) : Ask σ Bool :=
  return 0 < (← state.changeConfirmations oracle)

/-- Whether a transaction that may be absent is there and has a number of confirmations that
passes. -/
def confirmationsPass (passes : UInt32 → Bool) : Option Transaction → Ask σ Bool
  | some tx => return passes (← confirmationsOf oracle tx)
  | none => return false

/-- Whether one of the closing transactions waits to be confirmed. Both are asked about. -/
def isClosing (state : State) : Ask σ Bool := do
  let change ← confirmationsPass oracle (· == 0) state.changeTransaction
  let timeout ← confirmationsPass oracle (· == 0) state.timeoutTransaction
  return change || timeout

/-- Whether one of the closing transactions is confirmed. Both are asked about. -/
def isClosed (state : State) : Ask σ Bool := do
  let change ← confirmationsPass oracle (· != 0) state.changeTransaction
  let timeout ← confirmationsPass oracle (· != 0) state.timeoutTransaction
  return change || timeout

end State
end PaymentChannel.Channel
