import PaymentChannel.Proofs.Channel.Bookkeeping
import PaymentChannel.Proofs.Wallet.Run

/-! The commits of all channels of a wallet. A snapshot may be older than the channel it is loaded
into, or be that of another channel: its commits are active again that were revoked since, but a
hash still belongs to one commit of a channel alone, and what is revoked can be punished. -/
namespace PaymentChannel.Wallet
open Channel (Request)

variable {σ : Type} {oracle : Oracle σ} {wallet : Wallet σ} {snapshots : List Snapshot}

theorem Reachable.isBookkept (reached : Reachable oracle wallet snapshots) (name : String) :
    (wallet.channel name).state.IsBookkept :=
  (reached.induction .empty fun _ _ _ _ effect stored bookkept =>
    bookkept.of_effect effect stored).1 name

/-- In every channel of every reachable wallet, no two commits share a revoke hash, active commits
have no secret and revoked ones that of their script. What a request does next loses no commit of
the channel and copies none, unless it clears or loads; adding one adds that one. -/
theorem commits_are_kept (oracle : Oracle σ) (wallet : Wallet σ) (snapshots : List Snapshot)
    (reached : Reachable oracle wallet snapshots) (name : String) :
    let state := (wallet.channel name).state
    (∃ terms : List CommitTerms,
      (state.active ++ state.revoked).map (·.script) = terms.map CommitTerms.toScript ∧
      (terms.map (·.revokeHash)).Nodup) ∧
    (∀ commit ∈ state.revoked, ∃ (terms : CommitTerms) (secret : Secret),
      commit.script = terms.toScript ∧ commit.revokeSecret = some secret ∧
      secret.hash = terms.revokeHash) ∧
    (∀ commit ∈ state.active, commit.revokeSecret = none) ∧
    ∀ request : Request,
      let served := serve oracle name request wallet
      let after := (served.2.channel name).state
      (∀ other, other ≠ name → served.2.channel other = wallet.channel other) ∧
      ((served.1.isOk = true → request.changesEntries = false) →
        after.entries.Perm state.entries) ∧
      ∀ tx script, request = .addCommit tx script → served.1.isOk = true →
        after.entries.Perm ((tx, script) :: state.entries) := by
  have bookkept := reached.isBookkept name
  refine ⟨bookkept.exists_terms, fun _ member => bookkept.exists_secret member,
    bookkept.unrevoked, fun request => ?_⟩
  have effect := serve_effect oracle name request wallet
  refine ⟨fun _ different => serve_channel_of_ne oracle name request wallet different,
    effect.entries_perm, ?_⟩
  intro tx script same ok
  subst same
  rw [ok] at effect
  exact effect.added_of_addCommit.entries_perm

namespace Sample
open Channel.Sample

def ask (name : String) (request : Request) (run : Wallet Bool × List Snapshot) :
    Wallet Bool × List Snapshot :=
  let served := serve onlineOracle name request run.1
  (served.2, saved request served.1 ++ run.2)

def stored : Wallet Bool × List Snapshot :=
  ask "a" .save (ask "a" (add 1) (ask "a" fund ({ chain := true }, [])))

/-- The first commit is revoked in one channel, and once more in another that it was saved for. -/
def revokedTwice : Wallet Bool × List Snapshot :=
  let revoked := ask "a" (.revoke (revokeSecret 1)) (ask "a" (add 2) stored)
  ask "b" (.revoke (revokeSecret 1))
    (ask "b" (.load (.ofState (stored.1.channel "a").state)) revoked)

theorem reachable_ask {run : Wallet Bool × List Snapshot}
    (reached : Reachable onlineOracle run.1 run.2) (name : String) (request : Request)
    (known : ∀ snapshot, request = .load snapshot → snapshot ∈ run.2) :
    Reachable onlineOracle (ask name request run).1 (ask name request run).2 :=
  reached.serve name request known

theorem reachable_stored : Reachable onlineOracle stored.1 stored.2 := by
  have start : Reachable onlineOracle (({ chain := true }, []) : Wallet Bool × List Snapshot).1 [] :=
    .start fun _ => rfl
  have funded := reachable_ask start "a" fund fun _ load => nomatch load
  have added := reachable_ask funded "a" (add 1) fun _ load => nomatch load
  exact reachable_ask added "a" .save fun _ load => nomatch load

theorem reachable_revokedTwice : Reachable onlineOracle revokedTwice.1 revokedTwice.2 := by
  have added := reachable_ask reachable_stored "a" (add 2) fun _ load => nomatch load
  have revoked := reachable_ask added "a" (.revoke (revokeSecret 1)) fun _ load => nomatch load
  have loaded := reachable_ask revoked "b" (.load (.ofState (stored.1.channel "a").state))
    fun _ load => by cases load; decide +kernel
  exact reachable_ask loaded "b" (.revoke (revokeSecret 1)) fun _ load => nomatch load

end Sample

theorem commits_are_kept_after_rollback :
    let wallet := Sample.revokedTwice.1
    (wallet.channel "a").state.revoked.length = 1 ∧
    (wallet.channel "b").state.revoked.length = 1 ∧
    ∀ commit ∈ (wallet.channel "b").state.revoked, ∃ (terms : CommitTerms) (secret : Secret),
      commit.script = terms.toScript ∧ commit.revokeSecret = some secret ∧
      secret.hash = terms.revokeHash :=
  ⟨by decide +kernel, by decide +kernel,
    (commits_are_kept _ _ _ Sample.reachable_revokedTwice "b").2.1⟩

end PaymentChannel.Wallet
