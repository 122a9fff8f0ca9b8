import PaymentChannel.Channel.Request
import PaymentChannel.Store

/-! Any number of channels under names of their own, which share one oracle and one store. A channel
that is not there yet is an empty one. -/
namespace PaymentChannel

structure Wallet (σ : Type) where
  channels : List (String × Channel) := []
  store : Store := {}
  chain : σ

namespace Wallet

inductive Error
  | fault (cause : Fault)
  | store (cause : StoreError)

abbrev Action (σ α : Type) := ExceptT Error (StateM (Wallet σ)) α

def channel (wallet : Wallet σ) (name : String) : Channel := (wallet.channels.lookup name).getD {}

def setChannel (wallet : Wallet σ) (name : String) (channel : Channel) : Wallet σ :=
  { wallet with channels := (name, channel) :: wallet.channels.filter (·.1 != name) }

variable (oracle : Oracle σ)

def serve (name : String) (request : Channel.Request) : Action σ request.Answer := fun wallet =>
  let channel := wallet.channel name
  let (result, session) :=
    Channel.serve oracle channel.config request ⟨channel.state, wallet.chain⟩
  let wallet := { wallet.setChannel name { channel with state := session.state } with
    chain := session.chain }
  (result.mapError .fault, wallet)

def put (name key : String) : Action σ Unit := do
  let snapshot : Snapshot ← serve oracle name .save
  modify fun wallet => { wallet with store := wallet.store.put key snapshot }

def restore (name key : String) : Action σ Unit := do
  match (← get).store.get key with
  | .ok snapshot => serve oracle name (.load snapshot)
  | .error cause => throw (.store cause)

def delete (key : String) : Action σ Unit := do
  match (← get).store.delete key with
  | .ok store => modify fun wallet => { wallet with store }
  | .error cause => throw (.store cause)

end Wallet
end PaymentChannel
