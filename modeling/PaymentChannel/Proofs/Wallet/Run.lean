import PaymentChannel.Proofs.Channel.Run
import PaymentChannel.Wallet

/-! Runs of any number of channels. Requests come to the channels in any order, and between two of
them the oracle may change in any way; a snapshot is loaded only if a save of some channel returned it
before. What every effect keeps, and every load of a snapshot that has it, all channels and all saved
snapshots have. -/
namespace PaymentChannel.Wallet
open Channel (Request Effect State)

variable {σ : Type}

private theorem lookup_filter_ne {α : Type} {name other : String} (different : other ≠ name)
    (entries : List (String × α)) :
    (entries.filter (·.1 != name)).lookup other = entries.lookup other := by
  induction entries with
  | nil => rfl
  | cons entry rest ih =>
    obtain ⟨key, value⟩ := entry
    by_cases same : key = name
    · subst same
      have passed : (other == key) = false := beq_eq_false_iff_ne.mpr different
      rw [List.filter_cons_of_neg (by simp), ih, List.lookup_cons, passed]
    · rw [List.filter_cons_of_pos (by simp [same]), List.lookup_cons, List.lookup_cons, ih]

@[simp] theorem channel_setChannel (wallet : Wallet σ) (name : String) (channel : Channel) :
    (wallet.setChannel name channel).channel name = channel := by
  simp [setChannel, Wallet.channel]

theorem channel_setChannel_of_ne (wallet : Wallet σ) {name other : String} (channel : Channel)
    (different : other ≠ name) :
    (wallet.setChannel name channel).channel other = wallet.channel other := by
  have passed : (other == name) = false := beq_eq_false_iff_ne.mpr different
  rw [setChannel, Wallet.channel, List.lookup_cons, passed]
  simp only [lookup_filter_ne different, Wallet.channel]

/-- What a request hands out that can be loaded later. -/
def saved : (request : Request) → Except Error request.Answer → List Snapshot
  | .save, .ok snapshot => [snapshot]
  | _, _ => []

/-- The wallets of all runs from empty channels on, each with the snapshots saved so far. -/
inductive Reachable (oracle : Oracle σ) : Wallet σ → List Snapshot → Prop
  | start {wallet : Wallet σ} (empty : ∀ name, (wallet.channel name).state = {}) :
    Reachable oracle wallet []
  | pass {wallet : Wallet σ} {snapshots : List Snapshot}
      (reached : Reachable oracle wallet snapshots) (chain : σ) :
    Reachable oracle { wallet with chain } snapshots
  | serve {wallet : Wallet σ} {snapshots : List Snapshot}
      (reached : Reachable oracle wallet snapshots) (name : String) (request : Request)
      (known : ∀ snapshot, request = .load snapshot → snapshot ∈ snapshots) :
    Reachable oracle (Wallet.serve oracle name request wallet).2
      (saved request (Wallet.serve oracle name request wallet).1 ++ snapshots)

private theorem isOk_mapError {ε δ α : Type} (f : ε → δ) (result : Except ε α) :
    (result.mapError f).isOk = result.isOk := by
  cases result <;> rfl

variable (oracle : Oracle σ) (name : String) (request : Request) (wallet : Wallet σ)

private theorem serve_result : (serve oracle name request wallet).1 =
    (Channel.serve oracle (wallet.channel name).config request
      ⟨(wallet.channel name).state, wallet.chain⟩).1.mapError .fault :=
  rfl

private theorem serve_state : ((serve oracle name request wallet).2.channel name).state =
    (Channel.serve oracle (wallet.channel name).config request
      ⟨(wallet.channel name).state, wallet.chain⟩).2.state :=
  congrArg Channel.state (channel_setChannel wallet name _)

theorem serve_effect :
    Effect oracle request (serve oracle name request wallet).1.isOk (wallet.channel name).state
      ((serve oracle name request wallet).2.channel name).state := by
  have effect := Channel.serve_effect oracle (wallet.channel name).config request
    (wallet.channel name).state wallet.chain
  rw [serve_state, serve_result, isOk_mapError]
  exact effect

theorem serve_channel_of_ne {other : String} (different : other ≠ name) :
    (serve oracle name request wallet).2.channel other = wallet.channel other :=
  channel_setChannel_of_ne wallet _ different

theorem toState_of_saved {snapshot : Snapshot}
    (member : snapshot ∈ saved request (serve oracle name request wallet).1) :
    snapshot.toState = ((serve oracle name request wallet).2.channel name).state := by
  cases request
  case save =>
    rw [serve_result] at member
    rw [serve_state]
    cases result : (Channel.serve oracle (wallet.channel name).config .save
        ⟨(wallet.channel name).state, wallet.chain⟩).1 with
    | error fault =>
      rw [result] at member
      cases member
    | ok stored =>
      rw [result] at member
      cases List.mem_singleton.mp member
      rw [((Channel.Action.save_ends _).of_ok result).2 snapshot rfl, Snapshot.toState_ofState]
      rfl
  all_goals cases member

variable {oracle name request wallet}

theorem Reachable.induction {invariant : State → Prop} (empty : invariant {})
    (preserved : ∀ request ok before after, Effect oracle request ok before after →
      (∀ snapshot, request = .load snapshot → invariant snapshot.toState) →
      invariant before → invariant after)
    {snapshots : List Snapshot} (reached : Reachable oracle wallet snapshots) :
    (∀ name, invariant (wallet.channel name).state) ∧
      ∀ snapshot ∈ snapshots, invariant snapshot.toState := by
  induction reached with
  | start initial => exact ⟨fun name => initial name ▸ empty, by simp⟩
  | pass _ chain ih => exact ih
  | @serve wallet snapshots _ name request known ih =>
    obtain ⟨channels, stored⟩ := ih
    have served := preserved _ _ _ _ (serve_effect oracle name request wallet)
      (fun snapshot load => stored snapshot (known snapshot load)) (channels name)
    refine ⟨fun other => ?_, fun snapshot member => ?_⟩
    · by_cases same : other = name
      · exact same ▸ served
      · rw [serve_channel_of_ne oracle name request wallet same]
        exact channels other
    · rcases List.mem_append.mp member with new | old
      · rw [toState_of_saved oracle name request wallet new]
        exact served
      · exact stored snapshot old

end PaymentChannel.Wallet
