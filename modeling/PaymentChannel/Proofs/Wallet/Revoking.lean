import PaymentChannel.Proofs.Channel.Batch
import PaymentChannel.Proofs.Wallet.Consistency

/-! Revoking with several secrets in a channel of a wallet. Its commits name different hashes, also
where they were loaded, so that the secrets meet the same commits in whatever order they come. -/
namespace PaymentChannel.Wallet
open Channel (Commit Revocations RevokedInTurn)

variable {σ : Type}

/-- In every channel of every reachable wallet, several secrets at once revoke what they revoke one
after another: each the active commit that names its hash, unless a secret in front has the same.
The others stay active in their order, those revoked join the revoked ones in that of the secrets,
and nothing else changes. Where no two different secrets share a hash, another order of them leaves
the same active commits and the same revoked ones, in some order. -/
theorem secrets_revoke_in_turn (oracle : Oracle σ) (wallet : Wallet σ) (snapshots : List Snapshot)
    (reached : Reachable oracle wallet snapshots) (name : String) (secrets : List Secret) :
    let config := (wallet.channel name).config
    let state := (wallet.channel name).state
    ∃ found after, (∀ chain, Channel.serve oracle config (.revokeAll secrets) ⟨state, chain⟩ =
        (.ok found, ⟨after, chain⟩)) ∧
      RevokedInTurn oracle config state secrets found after ∧
      found.length = secrets.length ∧
      (∀ i secret, secrets[i]? = some secret → ∀ commit, found[i]? = some (some commit) ↔
        (∀ earlier ∈ secrets.take i, earlier.hash ≠ secret.hash) ∧
        ∃ active ∈ state.active, active.revokeHash = .ok secret.hash ∧
          commit = { active with revokeSecret := some secret }) ∧
      after = { state with
        active := state.active.filter fun commit => !secrets.any commit.names
        revoked := state.revoked ++ found.reduceOption } ∧
      ∀ others : List Secret, others.Perm secrets →
        (∀ first ∈ secrets, ∀ second ∈ secrets, first.hash = second.hash → first = second) →
        ∃ again other, (∀ chain, Channel.serve oracle config (.revokeAll others) ⟨state, chain⟩ =
            (.ok again, ⟨other, chain⟩)) ∧
          other.active = after.active ∧ other.revoked.Perm after.revoked := by
  intro config state
  have distinct : state.HashesDiffer := (reached.isBookkept name).hashesDiffer
  have valid : state.IsValid := reached.isValid name
  obtain ⟨found, after, revocations⟩ := valid.exists_revocations secrets
  refine ⟨found, after, Channel.Action.revokeAll_eq revocations, revocations.inTurn,
    revocations.length_eq, fun i secret there => revocations.found_iff distinct there,
    revocations.filters distinct, fun others perm differ => ?_⟩
  obtain ⟨again, other, permuted⟩ := valid.exists_revocations others
  exact ⟨again, other, Channel.Action.revokeAll_eq permuted,
    revocations.of_perm distinct permuted perm differ⟩

namespace Sample
open Channel.Sample

/-- Two commits are active. -/
def paidTwice : Wallet Bool × List Snapshot := ask "a" (add 2) stored

theorem reachable_paidTwice : Reachable onlineOracle paidTwice.1 paidTwice.2 :=
  reachable_ask reachable_stored "a" (add 2) fun _ load => nomatch load

/-- One secret is there twice, and one is of no commit. -/
def secrets : List Secret := [revokeSecret 2, revokeSecret 7, revokeSecret 1, revokeSecret 2]

end Sample

theorem secrets_revoke_in_turn_repeated :
    let channel := Sample.paidTwice.1.channel "a"
    let second : Commit :=
      { transaction := .placeholder 2 20, script := (Channel.Sample.commit 2).toScript }
    ∃ found after, (∀ chain, Channel.serve Channel.Sample.onlineOracle channel.config
        (.revokeAll Sample.secrets) ⟨channel.state, chain⟩ = (.ok found, ⟨after, chain⟩)) ∧
      found[0]? = some (some (second.revokedBy (Channel.Sample.revokeSecret 2))) ∧
      channel.state.active.length = 2 ∧ after.active = [] ∧
      ∃ again other, (∀ chain, Channel.serve Channel.Sample.onlineOracle channel.config
          (.revokeAll Sample.secrets.reverse) ⟨channel.state, chain⟩ =
            (.ok again, ⟨other, chain⟩)) ∧
        other.active = [] ∧ other.revoked.Perm after.revoked := by
  intro channel second
  obtain ⟨found, after, revoked, -, -, each, ended, permuted⟩ :=
    secrets_revoke_in_turn _ _ _ Sample.reachable_paidTwice "a" Sample.secrets
  have read : CommitTerms.ofScript second.script = .ok (Channel.Sample.commit 2) :=
    (Channel.Sample.commit 2).ofScript_toScript
  have named : second.revokeHash = .ok (Channel.Sample.commit 2).revokeHash :=
    Commit.revokeHash_of_ofScript read
  obtain ⟨two, there, none⟩ : channel.state.active.length = 2 ∧ second ∈ channel.state.active ∧
      channel.state.active.filter (fun commit => !Sample.secrets.any commit.names) = [] := by
    decide +kernel
  have first : found[0]? = some (some (second.revokedBy (Channel.Sample.revokeSecret 2))) :=
    (each 0 _ rfl _).mpr ⟨by simp, second, there, named, rfl⟩
  have empty : after.active = [] := (congrArg (·.active) ended).trans none
  obtain ⟨again, other, served, same, moved⟩ :=
    permuted Sample.secrets.reverse (List.reverse_perm _) (by decide +kernel)
  exact ⟨found, after, revoked, first, two, empty, again, other, served, same.trans empty, moved⟩

end PaymentChannel.Wallet
