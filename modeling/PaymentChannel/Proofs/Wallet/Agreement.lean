import PaymentChannel.Proofs.Channel.Exchange
import PaymentChannel.Proofs.Wallet.Consistency

/-! Two parties that keep a channel each. They meet the same commits in the same order, but a secret
may come to one of them earlier than to the other; once both have met all of them, they agree. -/
namespace PaymentChannel.Wallet
open Channel (Commit Config Exchange Request State)

variable {σ : Type}

theorem Reachable.isAscending {oracle : Oracle σ} {quantity : Transaction → UInt64}
    {wallet : Wallet σ} {snapshots : List Snapshot} (steady : oracle.IsSteady quantity)
    (reached : Reachable oracle wallet snapshots) (name : String) :
    (wallet.channel name).state.IsAscending quantity :=
  (reached.induction .empty fun _ _ _ _ effect _ ascending =>
    ascending.of_effect steady effect).1 name

/-- Two channels that start in the state of a channel of a reachable wallet add the same commits in
the same order and revoke with the same secrets in any order, however each of them interleaves the
two. If every commit is accepted and every secret revokes a commit, then the channels agree but for
the order of their revoked commits. The oracle may change from call to call, not its quantities. -/
theorem parties_agree_after_exchange (oracle : Oracle σ) (quantity : Transaction → UInt64)
    (steady : oracle.IsSteady quantity) (wallet : Wallet σ) (snapshots : List Snapshot)
    (reached : Reachable oracle wallet snapshots) (name : String) (config config' : Config)
    (commits : List Commit) (secrets secrets' : List Secret) (one two : State)
    (first : Exchange oracle config (wallet.channel name).state commits secrets one)
    (second : Exchange oracle config' (wallet.channel name).state commits secrets' two)
    (permuted : secrets.Perm secrets') :
    one.revoked.Perm two.revoked ∧ two = { one with revoked := two.revoked } := by
  have bookkept := reached.isBookkept name
  have ascending := reached.isAscending steady name
  obtain ⟨settled, kept, ordered⟩ := first.settled steady bookkept ascending
  obtain ⟨settled', kept', ordered'⟩ := second.settled steady bookkept ascending
  exact settled.agree settled' permuted ⟨kept, kept'⟩ ⟨ordered, ordered'⟩

namespace Sample
open Channel.Sample

/-- A deposit with one commit. -/
def funded : State where
  depositScript := some deposit.toScript
  depositTransaction := some (.placeholder 0 100)
  active := [{ transaction := .placeholder 1 10, script := (commit 1).toScript }]

theorem stored_state : (stored.1.channel "a").state = funded := by decide +kernel

def after (request : Request) (state : State) : State :=
  (Channel.serve onlineOracle {} request ⟨state, true⟩).2.state

def accepts (request : Request) (state : State) : Bool :=
  (Channel.serve onlineOracle {} request ⟨state, true⟩).1.isOk

def revokes (secret : Secret) (state : State) : Bool :=
  ((Channel.serve onlineOracle {} (.revoke secret) ⟨state, true⟩).1.toOption.bind id).isSome

variable {start state : State} {commits : List Commit} {secrets : List Secret}
  (earlier : Exchange onlineOracle {} start commits secrets state)
include earlier

theorem exchange_add {tx : Transaction} {script : Script}
    (ok : accepts (.addCommit tx script) state = true) :
    Exchange onlineOracle {} start (commits ++ [{ transaction := tx, script }]) secrets
      (after (.addCommit tx script) state) := by
  rw [accepts] at ok
  cases result : (Channel.serve onlineOracle {} (.addCommit tx script) ⟨state, true⟩).1 with
  | error fault =>
    rw [result] at ok
    cases ok
  | ok _ => exact earlier.add result

theorem exchange_revoke {secret : Secret} (ok : revokes secret state = true) :
    Exchange onlineOracle {} start commits (secrets ++ [secret]) (after (.revoke secret) state) := by
  rw [revokes] at ok
  cases result : (Channel.serve onlineOracle {} (.revoke secret) ⟨state, true⟩).1 with
  | error fault =>
    rw [result] at ok
    cases ok
  | ok found =>
    cases found with
    | none =>
      rw [result] at ok
      cases ok
    | some commit => exact earlier.revoke result

end Sample

theorem parties_agree_after_exchange_sample :
    let first := Channel.Sample.revokeSecret 1
    let second := Channel.Sample.revokeSecret 2
    let add := Sample.after (Channel.Sample.add 2)
    let one := Sample.after (.revoke second) (add (Sample.after (.revoke first) Sample.funded))
    let two := Sample.after (.revoke first) (Sample.after (.revoke second) (add Sample.funded))
    one.revoked ≠ two.revoked ∧ one.revoked.Perm two.revoked ∧
      two = { one with revoked := two.revoked } := by
  intro first second add one two
  -- evaluated as one term, in which the states that occur again are evaluated once
  obtain ⟨revokes₁, adds₁, revokes₂, adds₂, revokes₃, revokes₄, different⟩ :
      Sample.revokes first Sample.funded ∧
      Sample.accepts (Channel.Sample.add 2) (Sample.after (.revoke first) Sample.funded) ∧
      Sample.revokes second (add (Sample.after (.revoke first) Sample.funded)) ∧
      Sample.accepts (Channel.Sample.add 2) Sample.funded ∧
      Sample.revokes second (add Sample.funded) ∧
      Sample.revokes first (Sample.after (.revoke second) (add Sample.funded)) ∧
      one.revoked ≠ two.revoked := by
    decide +kernel
  have early : Exchange _ _ Sample.funded _ _ one := Sample.exchange_revoke
    (Sample.exchange_add (Sample.exchange_revoke .start revokes₁) adds₁) revokes₂
  have late : Exchange _ _ Sample.funded _ _ two := Sample.exchange_revoke
    (Sample.exchange_revoke (Sample.exchange_add .start adds₂) revokes₃) revokes₄
  rw [← Sample.stored_state] at early late
  exact ⟨different, parties_agree_after_exchange Channel.Sample.onlineOracle
    Channel.Sample.carried Channel.Sample.onlineOracle_isSteady _ _ Sample.reachable_stored "a" {} {}
    _ _ _ _ _ early late (List.Perm.swap _ _ _)⟩

end PaymentChannel.Wallet
