import PaymentChannel.Json.Document
import PaymentChannel.Secret
import PaymentChannel.Template.Json

/-! What one party knows of a channel. Everything in a new channel is absent; nothing here asks an
oracle, so the order of the active commits is the one they were left in. -/
namespace PaymentChannel.Channel

/-- The timelocks of scripts that a channel makes, where the caller names none. -/
structure Config where
  expireTime : UInt16 := 5
  delayTime : UInt16 := 5
deriving DecidableEq

namespace Config

def toJson (config : Config) : Json := .record [
  ("expire_time", .nat config.expireTime.toNat),
  ("delay_time", .nat config.delayTime.toNat)]

def ofJson? (json : Json) : Option Config := do
  match ← json.values? ["expire_time", "delay_time"] with
  | [expireTime, delayTime] => return ⟨← expireTime.sequence?, ← delayTime.sequence?⟩
  | _ => none

/-- What is shown of a channel: its configuration alone. -/
def text (config : Config) : String :=
  let times := s!"expire_time: {config.expireTime}, delay_time: {config.delayTime}"
  s!"Channel \x7b config: ChannelConfig \x7b {times} \x7d, .. \x7d"

end Config

/-- A signed commitment: the transaction, the script it pays to, and the secret that revokes it
once that is known. -/
structure Commit where
  transaction : Transaction
  script : Script
  revokeSecret : Option Secret := none
deriving DecidableEq

namespace Commit

def revokeHash (commit : Commit) : Except Fault Hash160 := CommitTerms.revokeHashAt commit.script

/-- The first of the commits with a revoke hash, and the others. -/
def takeOut (hash : Hash160) : List Commit → Except Fault (Option (Commit × List Commit))
  | [] => .ok none
  | commit :: rest => do
    if (← commit.revokeHash) = hash then return some (commit, rest)
    else
      match ← takeOut hash rest with
      | some (found, others) => return some (found, commit :: others)
      | none => return none

def anyWithHash (hash : Hash160) : List Commit → Except Fault Bool
  | [] => .ok false
  | commit :: rest => do
    if (← commit.revokeHash) = hash then return true else anyWithHash hash rest

end Commit

structure State where
  payerKey : Option SecretKey := none
  payeeKey : Option SecretKey := none
  spendSecret : Option Secret := none
  depositScript : Option Script := none
  depositTransaction : Option Transaction := none
  timeoutTransaction : Option Transaction := none
  changeTransaction : Option Transaction := none
  /-- The secrets of commits that the payer has been asked for. -/
  requested : List Secret := []
  active : List Commit := []
  revoked : List Commit := []
deriving DecidableEq

namespace State

def requireDepositScript (state : State) : Except Fault Script :=
  match state.depositScript with
  | some script => .ok script
  | none => .error .noDepositScript

def requireDepositTransaction (state : State) : Except Fault Transaction :=
  match state.depositTransaction with
  | some tx => .ok tx
  | none => .error .noDepositTransaction

def requireSpendSecret (state : State) : Except Fault Secret :=
  match state.spendSecret with
  | some secret => .ok secret
  | none => .error .noSpendSecret

def depositTerms (state : State) : Except Fault DepositTerms := do
  DepositTerms.ofScript (← state.requireDepositScript)

/-- The keys to sign with, in the order they are tried. -/
def keys (state : State) : List SecretKey := state.payerKey.toList ++ state.payeeKey.toList

def expireTime (state : State) : Except Fault UInt16 := do
  DepositTerms.expireTimeAt (← state.requireDepositScript)

/-- The payee takes the hash from the secret, the payer from the deposit. -/
def spendHash (state : State) : Except Fault Hash160 :=
  match state.spendSecret, state.depositScript with
  | some secret, _ => .ok secret.hash
  | none, some script => DepositTerms.spendHashAt script
  | none, none => .error .neitherParty

def usesRevokeHash (state : State) (hash : Hash160) : Except Fault Bool :=
  Commit.anyWithHash hash (state.active ++ state.revoked)

/-- Moves the active commit that a secret revokes to the revoked ones, where there is one. -/
def revoke (state : State) (secret : Secret) : Except Fault (Option Commit × State) := do
  match ← Commit.takeOut secret.hash state.active with
  | none => return (none, state)
  | some (commit, others) =>
    let commit := { commit with revokeSecret := some secret }
    return (some commit, { state with active := others, revoked := state.revoked ++ [commit] })

end State
end PaymentChannel.Channel
