import PaymentChannel.Channel.Transfer
import PaymentChannel.Snapshot

/-! Saving a channel to a snapshot and loading one from it. A loaded channel has active commits of
distinct quantities above zero and within the deposit; a snapshot that gives no such channel leaves
the present one as it was. -/
namespace PaymentChannel.Channel.Action

variable (oracle : Oracle σ)

/-- The active commits are put in order first. -/
def save : Action σ Snapshot := do
  let _ ← orderActive oracle
  return Snapshot.ofState (← getState)

/-- The first item of a list that the next one repeats. -/
def firstRepeat : List UInt64 → Option UInt64
  | first :: second :: rest => if first = second then some first else firstRepeat (second :: rest)
  | _ => none

def load (snapshot : Snapshot) : Action σ Unit := do
  let restored ← snapshot.restore
  let (quantities, loaded) ← ask fun _ => restored.order oracle
  match firstRepeat quantities with
  | some quantity => throw (.duplicateQuantity quantity)
  | none => pure ()
  if quantities.head? = some 0 then throw .zeroQuantity
  match quantities.getLast?, loaded.depositTransaction with
  | some highest, some _ =>
    let total ← ask fun _ => loaded.depositTotal oracle
    if total < highest then throw (.loadedAboveTotal highest total)
  | _, _ => pure ()
  setState loaded

end PaymentChannel.Channel.Action
