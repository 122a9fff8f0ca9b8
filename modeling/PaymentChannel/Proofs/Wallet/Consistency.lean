import PaymentChannel.Proofs.Channel.Consistency
import PaymentChannel.Proofs.Channel.Validity
import PaymentChannel.Proofs.Wallet.Bookkeeping

/-! Every channel of a wallet agrees with its deposit, in whatever order keys, deposit and commits
came to it, and also where it was loaded from the snapshot of another channel. -/
namespace PaymentChannel.Wallet
open Channel (Request KeepsDeposit)

variable {σ : Type} {oracle : Oracle σ} {wallet : Wallet σ} {snapshots : List Snapshot}

namespace Reachable

theorem isValid (reached : Reachable oracle wallet snapshots) (name : String) :
    (wallet.channel name).state.IsValid :=
  (reached.induction .empty fun _ _ _ _ effect _ valid => valid.of_effect effect).1 name

theorem isConsistent (reached : Reachable oracle wallet snapshots) (name : String) :
    (wallet.channel name).state.IsConsistent :=
  (reached.induction .empty fun _ _ _ _ effect stored consistent =>
    consistent.of_effect effect stored).1 name

end Reachable

/-- In every channel of every reachable wallet, the keys that are known are those of the deposit
script where there is one; where there is a commit, there are a deposit script and a deposit
transaction, and the commit's keys and spend secret hash are those of the script. What there is of a
deposit stays through every request but one that clears the channel or succeeds in loading it. -/
theorem channels_match_their_deposit (oracle : Oracle σ) (wallet : Wallet σ)
    (snapshots : List Snapshot) (reached : Reachable oracle wallet snapshots) (name : String) :
    let state := (wallet.channel name).state
    (∀ script, state.depositScript = some script → ∃ deposit : DepositTerms,
      deposit.toScript = script ∧
      (∀ key, state.payerKey = some key → key.publicKey = deposit.payer) ∧
      ∀ key, state.payeeKey = some key → key.publicKey = deposit.payee) ∧
    (∀ commit ∈ state.active ++ state.revoked,
      ∃ (deposit : DepositTerms) (tx : Transaction) (terms : CommitTerms),
        state.depositScript = some deposit.toScript ∧ state.depositTransaction = some tx ∧
        commit.script = terms.toScript ∧ terms.IsOf deposit) ∧
    ∀ request : Request,
      let served := serve oracle name request wallet
      (∀ other, other ≠ name → served.2.channel other = wallet.channel other) ∧
      ((served.1.isOk = true → request.replacesDeposit = false) →
        KeepsDeposit state (served.2.channel name).state) := by
  have consistent := reached.isConsistent name
  refine ⟨fun script there => ?_, fun commit member => ?_, fun request => ⟨fun other different => ?_,
    fun kept => ?_⟩⟩
  · obtain ⟨deposit, read⟩ := (reached.isValid name).deposit script there
    cases DepositTerms.ofScript_eq_ok_iff.mp read
    exact ⟨deposit, rfl, consistent.keys deposit there⟩
  · exact consistent.backed commit.entry (List.mem_map_of_mem member)
  · exact serve_channel_of_ne oracle name request wallet different
  · exact (serve_effect oracle name request wallet).keepsDeposit kept

namespace Sample
open Channel.Sample

def payerKey : SecretKey := (SecretKey.ofScalar? 1).get (by decide +kernel)

/-- A channel that was loaded from the snapshot of another comes to know the payer's key. -/
def keyed : Wallet Bool × List Snapshot := ask "b" (.setPayerKey payerKey) revokedTwice

theorem reachable_keyed : Reachable onlineOracle keyed.1 keyed.2 :=
  reachable_ask reachable_revokedTwice "b" (.setPayerKey payerKey) fun _ load => nomatch load

end Sample

theorem channels_match_their_deposit_after_load :
    let state := (Sample.keyed.1.channel "b").state
    state.payerKey = some Sample.payerKey ∧ state.revoked.length = 1 ∧
    (∃ deposit : DepositTerms, deposit.toScript = Channel.Sample.deposit.toScript ∧
      ∀ key, state.payerKey = some key → key.publicKey = deposit.payer) ∧
    ∀ commit ∈ state.revoked, ∃ (deposit : DepositTerms) (terms : CommitTerms),
      state.depositScript = some deposit.toScript ∧ commit.script = terms.toScript ∧
      terms.IsOf deposit := by
  obtain ⟨keys, commits, -⟩ := channels_match_their_deposit _ _ _ Sample.reachable_keyed "b"
  obtain ⟨known, one, there⟩ : (Sample.keyed.1.channel "b").state.payerKey = some Sample.payerKey ∧
      (Sample.keyed.1.channel "b").state.revoked.length = 1 ∧
      (Sample.keyed.1.channel "b").state.depositScript = some Channel.Sample.deposit.toScript := by
    decide +kernel
  refine ⟨known, one, ?_, fun commit member => ?_⟩
  · obtain ⟨deposit, same, payer, -⟩ := keys _ there
    exact ⟨deposit, same, payer⟩
  · obtain ⟨deposit, _, terms, there, -, written, isOf⟩ :=
      commits commit (List.mem_append_right _ member)
    exact ⟨deposit, terms, there, written, isOf⟩

end PaymentChannel.Wallet
