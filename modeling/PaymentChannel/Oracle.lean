import PaymentChannel.Transaction.Codec

/-! Oracles, which tell how often a transaction is confirmed and what quantity it carries. An answer
may be a failure, and asking may change the oracle, so that nothing is known of the next answer;
`ChainView` is one whose answers are set from outside. -/
namespace PaymentChannel

inductive OracleError
  | unavailable (text : String)
  | notFound (text : String)
  | internal (text : String)
deriving DecidableEq

namespace OracleError

def message : OracleError → String
  | .unavailable text => s!"Unavailable({Text.quoted text})"
  | .notFound text => s!"NotFound({Text.quoted text})"
  | .internal text => s!"Internal({Text.quoted text})"

end OracleError

/-- A lookup in an oracle whose own state is of type `σ`. -/
abbrev Lookup (σ α : Type) := σ → Except OracleError α × σ

structure Oracle (σ : Type) where
  confirmations : Txid → Lookup σ UInt32
  quantity : Transaction → Lookup σ UInt64

/-- Set answers by transaction identifier, the latest first, and what fails. -/
structure ChainView where
  confirmations : List (Txid × UInt32) := []
  quantities : List (Txid × UInt64) := []
  failures : List (Txid × OracleError) := []
  offline : Bool := false

namespace ChainView

def setConfirmations (view : ChainView) (txid : Txid) (n : UInt32) : ChainView :=
  { view with confirmations := (txid, n) :: view.confirmations }

def setQuantity (view : ChainView) (txid : Txid) (n : UInt64) : ChainView :=
  { view with quantities := (txid, n) :: view.quantities }

/-- Makes every lookup of a transaction fail, or none where there is no error. -/
def setFailure (view : ChainView) (txid : Txid) (error : Option OracleError) : ChainView :=
  let others := view.failures.filter (·.1 != txid)
  { view with failures := (error.map fun e => (txid, e)).toList ++ others }

def setOffline (view : ChainView) (offline : Bool) : ChainView := { view with offline }

/-- What a lookup of a transaction meets before its answer: a failure set for it, then one of the
whole view. -/
def check (view : ChainView) (txid : Txid) : Except OracleError Unit :=
  match view.failures.lookup txid with
  | some error => .error error
  | none => if view.offline then .error (.unavailable "mock oracle offline") else .ok ()

/-- A transaction is unconfirmed until a number is set. -/
def confirmationsOf (view : ChainView) (txid : Txid) : Except OracleError UInt32 := do
  view.check txid
  return (view.confirmations.lookup txid).getD 0

def quantityOf (view : ChainView) (tx : Transaction) : Except OracleError UInt64 := do
  view.check tx.txid
  match view.quantities.lookup tx.txid with
  | some n => return n
  | none => throw (.notFound s!"no quantity for {tx.txid.toReversedHex}")

end ChainView

def Oracle.ofChainView : Oracle ChainView where
  confirmations txid view := (view.confirmationsOf txid, view)
  quantity tx view := (view.quantityOf tx, view)

end PaymentChannel
