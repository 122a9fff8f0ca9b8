import PaymentChannel.Proofs.Channel.Bookkeeping
import PaymentChannel.Proofs.Channel.Setup

/-! How a channel agrees with its deposit. Keys that come after the deposit are checked against it,
and the deposit against keys that are there; a commit is only added to a deposit of its own keys and
spend secret, which then stays. So whatever the order in which they came, they belong together. -/
namespace PaymentChannel

/-- The commit pays from this deposit: it names the same keys and the same spend secret. -/
def CommitTerms.IsOf (terms : CommitTerms) (deposit : DepositTerms) : Prop :=
  terms.payer = deposit.payer ∧ terms.payee = deposit.payee ∧ terms.spendHash = deposit.spendHash

namespace Channel

variable {σ : Type} {oracle : Oracle σ}

namespace State

/-- Each key that is known is the one that the deposit names. -/
def KeysMatch (state : State) : Prop :=
  ∀ deposit : DepositTerms, state.depositScript = some deposit.toScript →
    (∀ key, state.payerKey = some key → key.publicKey = deposit.payer) ∧
    ∀ key, state.payeeKey = some key → key.publicKey = deposit.payee

/-- The keys are those of the deposit, where there is one, and there is one for every commit. -/
structure IsConsistent (state : State) : Prop where
  keys : state.KeysMatch
  backed : ∀ entry ∈ state.entries,
    ∃ (deposit : DepositTerms) (tx : Transaction) (terms : CommitTerms),
      state.depositScript = some deposit.toScript ∧ state.depositTransaction = some tx ∧
      entry.2 = terms.toScript ∧ terms.IsOf deposit

variable {before after : State}

theorem KeysMatch.of_sameSetup (matching : before.KeysMatch) (same : SameSetup before after) :
    after.KeysMatch := by
  intro deposit there
  rw [same.payerKey, same.payeeKey]
  exact matching deposit (same.depositScript ▸ there)

namespace IsConsistent

theorem empty : IsConsistent {} := by
  constructor <;> simp [KeysMatch, entries]

theorem of_entries (consistent : before.IsConsistent) (same : SameSetup before after)
    (fewer : after.entries ⊆ before.entries) : after.IsConsistent where
  keys := consistent.keys.of_sameSetup same
  backed entry member := by
    rw [same.depositScript, same.depositTransaction]
    exact consistent.backed entry (fewer member)

theorem of_ordered {quantities : List UInt64} (consistent : before.IsConsistent)
    (ordered : Ordered oracle before quantities after) : after.IsConsistent :=
  consistent.of_entries ordered.sameSetup ordered.entries_perm.subset

theorem of_moves (consistent : before.IsConsistent) (moves : Moves before after) :
    after.IsConsistent :=
  consistent.of_entries moves.sameSetup moves.entries_perm.subset

private theorem role_of_checked (role : DepositTerms → PublicKey) {deposit : DepositTerms}
    {key : SecretKey} (checked : ∃ terms, DepositTerms.ofScript deposit.toScript = .ok terms ∧
      key.publicKey = role terms) : key.publicKey = role deposit := by
  obtain ⟨terms, read, same⟩ := checked
  rw [deposit.ofScript_toScript] at read
  cases read
  exact same

theorem of_setPayerKey {key : SecretKey} (consistent : before.IsConsistent)
    (set : before.setPayerKey key = .ok after) : after.IsConsistent := by
  obtain ⟨rfl, checked⟩ := setPayerKey_eq_ok set
  refine ⟨fun deposit there => ⟨fun other known => ?_, (consistent.keys deposit there).2⟩,
    consistent.backed⟩
  cases known
  exact role_of_checked DepositTerms.payer (checked _ there)

theorem of_setPayeeKey {key : SecretKey} (consistent : before.IsConsistent)
    (set : before.setPayeeKey key = .ok after) : after.IsConsistent := by
  obtain ⟨rfl, checked⟩ := setPayeeKey_eq_ok set
  refine ⟨fun deposit there => ⟨(consistent.keys deposit there).1, fun other known => ?_⟩,
    consistent.backed⟩
  cases known
  exact role_of_checked DepositTerms.payee (checked _ there)

theorem of_setDeposit {script : Script} {tx : Transaction} (consistent : before.IsConsistent)
    (set : before.setDeposit script tx = .ok after) : after.IsConsistent := by
  obtain ⟨terms, read, sameScript, -, payer, payee, -, rfl⟩ := setDeposit_eq_ok.mp set
  refine ⟨fun deposit there => ?_, fun entry member => ?_⟩
  · cases there
    rw [deposit.ofScript_toScript] at read
    cases read
    exact ⟨payer, payee⟩
  · -- a commit that is there already has a deposit, and this can only be the same one
    obtain ⟨deposit, _, commit, there, -, written, isOf⟩ := consistent.backed entry member
    have same : deposit.toScript = script := sameScript _ there
    exact ⟨deposit, tx, commit, congrArg some same.symm, rfl, written, isOf⟩

theorem of_added {tx : Transaction} {script : Script} (consistent : before.IsConsistent)
    (added : Added oracle tx script before after) : after.IsConsistent := by
  have same := added.sameSetup
  refine ⟨consistent.keys.of_sameSetup same, fun entry member => ?_⟩
  rw [same.depositScript, same.depositTransaction]
  rcases List.mem_cons.mp (added.entries_perm.subset member) with rfl | earlier
  · cases added with
    | @intro terms deposit _ _ _ _ depositTx read funded payer payee spendHash _ _ _ _ there =>
      exact ⟨deposit, depositTx, terms, depositTerms_eq_ok.mp funded, there,
        CommitTerms.ofScript_eq_ok_iff.mp read, payer, payee, spendHash⟩
  · exact consistent.backed entry earlier

/-- What is loaded has to be consistent before. -/
theorem of_effect {request : Request} {ok : Bool} (effect : Effect oracle request ok before after)
    (stored : ∀ snapshot, request = .load snapshot → snapshot.toState.IsConsistent)
    (consistent : before.IsConsistent) : after.IsConsistent := by
  cases effect with
  | reordered _ order =>
    rcases order with rfl | ⟨quantities, ordered⟩
    · exact consistent
    · exact consistent.of_ordered ordered
  | loaded load => exact (stored _ rfl).of_ordered load.ordered
  | cleared => exact empty
  | payerKey set => exact consistent.of_setPayerKey set
  | payeeKey set => exact consistent.of_setPayeeKey set
  | deposit set => exact consistent.of_setDeposit set
  | timeoutTransaction | changeTransaction | spendSecret | requested =>
    exact ⟨consistent.keys, consistent.backed⟩
  | added add => exact consistent.of_added add
  | revoked revoke => exact consistent.of_moves (moves_of_revoke revoke)
  | revokedAll moves => exact consistent.of_moves moves

end IsConsistent
end State
end Channel
end PaymentChannel
