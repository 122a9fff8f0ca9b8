import PaymentChannel.Proofs.Channel.Answers
import PaymentChannel.Proofs.Channel.Failure
import PaymentChannel.Proofs.Store
import PaymentChannel.Proofs.Wallet.Agreement

/-! Saving a channel, keeping its snapshot in a store and loading it from there. Every channel of a
reachable wallet is in order, backed by its deposit and made of scripts that are read, which is all
that loading asks for. -/
namespace PaymentChannel.Wallet
open Channel (Config State)

variable {σ : Type} {oracle : Oracle σ} {quantity : Transaction → UInt64} {wallet : Wallet σ}
  {snapshots : List Snapshot}

namespace Reachable

theorem isFunded (steady : oracle.IsSteady quantity) (reached : Reachable oracle wallet snapshots)
    (name : String) : (wallet.channel name).state.IsFunded quantity := by
  let invariant (state : State) : Prop := state.IsConsistent ∧ state.IsCovered quantity
  have empty : invariant {} := ⟨.empty, .empty⟩
  -- in a consistent channel a deposit never comes to commits that are there without one
  obtain ⟨consistent, covered⟩ := (reached.induction empty
    fun request _ _ _ effect stored both =>
      ⟨both.1.of_effect effect fun snapshot load => (stored snapshot load).1,
        both.2.of_effect steady (both.1.allowsDeposit request) effect⟩).1 name
  exact consistent.isFunded covered

/-- Saving a channel that is in order changes nothing in it. -/
theorem save_state (steady : oracle.IsSteady quantity) (reached : Reachable oracle wallet snapshots)
    (name : String) :
    ((Wallet.serve oracle name .save wallet).2.channel name).state =
      (wallet.channel name).state := by
  cases serve_effect oracle name .save wallet with
  | reordered _ order => exact order.eq_of_ascending steady (reached.isAscending steady name)

theorem toState_of_save (steady : oracle.IsSteady quantity)
    (reached : Reachable oracle wallet snapshots) {name : String} {snapshot : Snapshot}
    (ok : (Wallet.serve oracle name .save wallet).1 = .ok snapshot) :
    snapshot.toState = (wallet.channel name).state := by
  have member : snapshot ∈ saved .save (Wallet.serve oracle name .save wallet).1 := by
    rw [ok]
    exact List.mem_singleton.mpr rfl
  rw [toState_of_saved oracle name .save wallet member, reached.save_state steady name]

end Reachable

/-- A snapshot that a channel was saved to comes back from a store unchanged, and loading it into any
channel gives the channel that was saved, provided that the oracle answers for the active commits and
the deposit; that channel is then saved to the same snapshot. -/
theorem saved_channel_is_restored (oracle : Oracle σ) (quantity : Transaction → UInt64)
    (steady : oracle.IsSteady quantity) (wallet : Wallet σ) (snapshots : List Snapshot)
    (reached : Reachable oracle wallet snapshots) (name : String) (snapshot : Snapshot)
    (ok : (serve oracle name .save wallet).1 = .ok snapshot) :
    let state := (wallet.channel name).state
    ((serve oracle name .save wallet).2.channel name).state = state ∧
    (snapshot.IsReadable → ∀ (store : Store) (key : String),
      (store.put key snapshot).get key = .ok snapshot) ∧
    ∀ (config : Config) (other : State) (chain : σ),
      oracle.AnswersInTurn (state.carriers ++ state.depositTransaction.toList) chain →
      let loaded := Channel.serve oracle config (.load snapshot) ⟨other, chain⟩
      loaded.1 = .ok () ∧ loaded.2.state = state ∧
      ∀ later, oracle.AnswersInTurn state.carriers later →
        (Channel.serve oracle config .save ⟨loaded.2.state, later⟩).1 = .ok snapshot := by
  have same := reached.toState_of_save steady ok
  have valid := reached.isValid name
  have ascending := reached.isAscending steady name
  have funded := reached.isFunded steady name
  refine ⟨reached.save_state steady name, fun readable store key => store.get_put key readable, ?_⟩
  intro config other chain answers
  rw [← same] at valid ascending funded answers ⊢
  obtain ⟨after, loads⟩ := Channel.Action.load_eq steady valid ascending funded other answers
  change (Channel.Action.load oracle snapshot ⟨other, chain⟩).1 = _ ∧
    (Channel.Action.load oracle snapshot ⟨other, chain⟩).2.state = _ ∧ ∀ later, _ →
      (Channel.Action.save oracle
        ⟨(Channel.Action.load oracle snapshot ⟨other, chain⟩).2.state, later⟩).1 = _
  rw [loads]
  refine ⟨rfl, rfl, fun later answers => ?_⟩
  obtain ⟨_, saves⟩ := Channel.Action.save_eq steady ascending answers
  rw [saves, Snapshot.ofState_toState]

theorem saved_channel_is_restored_elsewhere :
    let wallet := Sample.stored.1
    ∃ snapshot, (serve Channel.Sample.onlineOracle "a" .save wallet).1 = .ok snapshot ∧
      snapshot.active.length = 1 ∧ snapshot.IsReadable ∧
      (({} : Store).put "kept" snapshot).get "kept" = .ok snapshot ∧
      let loaded := Channel.serve Channel.Sample.onlineOracle {} (.load snapshot) ⟨{}, true⟩
      loaded.1 = .ok () ∧ loaded.2.state = (wallet.channel "a").state ∧
      (Channel.serve Channel.Sample.onlineOracle {} .save ⟨loaded.2.state, true⟩).1 = .ok snapshot := by
  have reached := Sample.reachable_stored
  have saves : (serve Channel.Sample.onlineOracle "a" .save Sample.stored.1).1.isOk = true := by
    decide +kernel
  cases ok : (serve Channel.Sample.onlineOracle "a" .save Sample.stored.1).1 with
  | error cause =>
    rw [ok] at saves
    cases saves
  | ok snapshot =>
    have same : snapshot = .ofState (Sample.stored.1.channel "a").state := by
      rw [← reached.toState_of_save Channel.Sample.onlineOracle_isSteady ok, Snapshot.ofState_toState]
    have readable : snapshot.IsReadable := by
      rw [same]
      decide +kernel
    obtain ⟨-, keeps, restores⟩ := saved_channel_is_restored Channel.Sample.onlineOracle
      Channel.Sample.carried Channel.Sample.onlineOracle_isSteady _ _ reached "a" snapshot ok
    obtain ⟨loads, state, again⟩ := restores {} {} true (by decide +kernel)
    exact ⟨snapshot, ok, by rw [same]; decide +kernel, readable, keeps readable {} "kept", loads,
      state, again true (by decide +kernel)⟩

end PaymentChannel.Wallet
