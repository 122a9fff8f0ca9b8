import PaymentChannel.Proofs.Channel.Ordering
import PaymentChannel.Proofs.Channel.Validity

/-! What a request leaves behind when it fails or only reads. It may put the active commits in order,
and nothing else: revoking several secrets changes the channel step by step, but no step of it can
fail. While the oracle's quantities do not change, the commits are in order already. -/
namespace PaymentChannel.Channel

variable {σ : Type} {oracle : Oracle σ} {config : Config}

theorem run_isValid (oracle : Oracle σ) (config : Config) (events : List (Event σ)) :
    (run oracle config events).IsValid :=
  run_induction oracle config .empty (fun _ _ _ _ effect valid => valid.of_effect effect) events

theorem Reordered.exists_perm {before after : State} (order : Reordered oracle before after) :
    ∃ active, active.Perm before.active ∧ after = { before with active } := by
  rcases order with rfl | ⟨quantities, ordered⟩
  · exact ⟨after.active, .refl _, rfl⟩
  · exact ⟨after.active, ordered.perm, ordered.frame⟩

theorem Reordered.eq_of_ascending {quantity : Transaction → UInt64} {before after : State}
    (order : Reordered oracle before after) (steady : oracle.IsSteady quantity)
    (ascending : before.IsAscending quantity) : after = before := by
  rcases order with same | ⟨quantities, ordered⟩
  · exact same
  · exact ordered.eq_of_ascending steady ascending

theorem Event.reordered {state : State} (event : Event σ) (valid : state.IsValid)
    (idle : (event.result oracle config state).isOk = false ∨ event.request.changes = false) :
    Reordered oracle state (event.next oracle config state) := by
  obtain ⟨request, chain⟩ := event
  have effect := Event.effect oracle config ⟨request, chain⟩ state
  generalize outcome : (Event.result oracle config ⟨request, chain⟩ state).isOk = ok at effect idle
  cases effect with
  | reordered _ order => exact order
  | revokedAll =>
    have succeeds : ok = true := outcome ▸ Action.revokeAll_succeeds valid _ chain
    rw [succeeds] at idle
    rcases idle with impossible | impossible <;> cases impossible
  | loaded | cleared | payerKey | payeeKey | deposit | timeoutTransaction | changeTransaction
  | spendSecret | requested | added | revoked =>
    rcases idle with impossible | impossible <;> cases impossible

/-- After every run, a request that fails, and one that only reads even where it succeeds, at most
reorders the active commits; it changes nothing under an oracle whose quantities do not change. -/
theorem failures_and_queries_keep_state (oracle : Oracle σ) (config : Config)
    (events : List (Event σ)) (event : Event σ)
    (idle : (event.result oracle config (run oracle config events)).isOk = false ∨
      event.request.changes = false) :
    let before := run oracle config events
    let after := event.next oracle config before
    (∃ active, active.Perm before.active ∧ after = { before with active }) ∧
    ∀ quantity, oracle.IsSteady quantity → after = before := by
  have order := event.reordered (run_isValid oracle config events) idle
  refine ⟨order.exists_perm, fun quantity steady => ?_⟩
  exact order.eq_of_ascending steady (run_isAscending steady config events)

namespace Sample

def firstCommit : List (Event Bool) := [⟨fund, true⟩, ⟨add 1, true⟩]

/-- Carries more than the deposit, which is found only after the active commits were sorted. -/
def overdraw : Event Bool := ⟨add 11, true⟩

end Sample

theorem failures_and_queries_keep_state_overdrawn :
    let before := run Sample.onlineOracle {} Sample.firstCommit
    before.active.length = 1 ∧
    (Sample.overdraw.result Sample.onlineOracle {} before).isOk = false ∧
    Sample.onlineOracle.IsSteady Sample.carried ∧
    Sample.overdraw.next Sample.onlineOracle {} before = before := by
  have refused : (Sample.overdraw.result Sample.onlineOracle {}
      (run Sample.onlineOracle {} Sample.firstCommit)).isOk = false := by decide +kernel
  exact ⟨by decide +kernel, refused, Sample.onlineOracle_isSteady,
    (failures_and_queries_keep_state Sample.onlineOracle {} Sample.firstCommit Sample.overdraw
      (.inl refused)).2 Sample.carried Sample.onlineOracle_isSteady⟩

end PaymentChannel.Channel
