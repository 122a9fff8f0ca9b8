import PaymentChannel.Proofs.Channel.Effect
import PaymentChannel.Proofs.Template.Recognition

/-! What a channel holds is what restoring accepts: a deposit script that is one, commit scripts that
are such, and revoke secrets that their scripts name. Every way for a script into a channel checks
it, whatever the oracle answers, so reading a script that is held never fails. -/
namespace PaymentChannel
namespace Channel

/-- The script is that of a commitment, and a secret that is known is the one it names. -/
def Commit.IsValid (commit : Commit) : Prop :=
  ∃ terms, CommitTerms.ofScript commit.script = .ok terms ∧
    ∀ secret, commit.revokeSecret = some secret → secret.hash = terms.revokeHash

structure State.IsValid (state : State) : Prop where
  deposit : ∀ script, state.depositScript = some script →
    ∃ terms, DepositTerms.ofScript script = .ok terms
  active : ∀ commit ∈ state.active, commit.IsValid
  revoked : ∀ commit ∈ state.revoked, commit.IsValid

end Channel

namespace Snapshot
open Channel (Commit)

private theorem forM_list_eq_ok {α : Type} {items : List α} {check : α → Except Fault Unit}
    {done : Unit} : items.forM check = .ok done ↔ ∀ item ∈ items, check item = .ok () := by
  induction items with
  | nil => simp [List.forM, pure, Except.pure]
  | cons item rest ih =>
    simp only [List.forM, Outcome.bind_eq_ok, ih, List.mem_cons, forall_eq_or_imp]
    constructor
    · rintro ⟨_, first, others⟩
      exact ⟨first, others⟩
    · rintro ⟨first, others⟩
      exact ⟨(), first, others⟩

theorem checkDeposit_eq_ok {script : Script} :
    checkDeposit script = .ok () ↔ ∃ terms, DepositTerms.ofScript script = .ok terms := by
  rw [checkDeposit]
  cases DepositTerms.ofScript script <;> simp

theorem checkCommit_eq_ok {commit : Commit} : checkCommit commit = .ok () ↔ commit.IsValid := by
  rw [checkCommit, Commit.IsValid]
  cases read : CommitTerms.ofScript commit.script with
  | error cause => simp
  | ok terms =>
    cases known : commit.revokeSecret with
    | none => simp
    | some secret => simp

theorem check_eq_ok {snapshot : Snapshot} :
    snapshot.check = .ok () ↔ snapshot.toState.IsValid := by
  simp only [check, Outcome.bind_eq_ok, forM_list_eq_ok, Outcome.forM_option_eq_ok,
    checkDeposit_eq_ok, checkCommit_eq_ok]
  constructor
  · rintro ⟨_, deposit, _, active, revoked⟩
    exact ⟨deposit, active, revoked⟩
  · intro valid
    exact ⟨(), valid.deposit, (), valid.active, valid.revoked⟩

end Snapshot

namespace Channel

variable {σ : Type} {oracle : Oracle σ} {before after : State}

namespace Commit.IsValid

variable {commit : Commit}

theorem revokeHash_eq_ok (valid : commit.IsValid) : ∃ hash, commit.revokeHash = .ok hash := by
  obtain ⟨terms, read, -⟩ := valid
  exact ⟨terms.revokeHash, revokeHash_of_ofScript read⟩

theorem revokedBy {secret : Secret} (valid : commit.IsValid)
    (named : commit.revokeHash = .ok secret.hash) : (commit.revokedBy secret).IsValid := by
  obtain ⟨terms, read, -⟩ := valid
  refine ⟨terms, read, fun other known => ?_⟩
  cases known
  exact Except.ok.inj (named.symm.trans (revokeHash_of_ofScript read))

end Commit.IsValid

namespace State.IsValid

theorem empty : IsValid {} := by
  constructor <;> simp

theorem of_ordered {quantities : List UInt64} (valid : before.IsValid)
    (ordered : Ordered oracle before quantities after) : after.IsValid := by
  rw [ordered.frame]
  exact ⟨valid.deposit, fun commit member => valid.active commit (ordered.perm.subset member),
    valid.revoked⟩

theorem of_reordered (valid : before.IsValid) (order : Reordered oracle before after) :
    after.IsValid := by
  rcases order with rfl | ⟨quantities, ordered⟩
  · exact valid
  · exact valid.of_ordered ordered

theorem of_moved {secret : Secret} {commit : Commit} (valid : before.IsValid)
    (moved : Moved secret before commit after) : after.IsValid := by
  have fewer := moved.active_sublist.subset
  cases moved with
  | @intro left right commit split named =>
    have there : commit ∈ before.active := split ▸ by simp
    refine ⟨valid.deposit, fun other member => valid.active other (fewer member), ?_⟩
    intro other member
    rcases List.mem_append.mp member with earlier | last
    · exact valid.revoked other earlier
    · exact List.mem_singleton.mp last ▸ (valid.active commit there).revokedBy named

theorem of_moves (valid : before.IsValid) (moves : Moves before after) : after.IsValid := by
  induction moves with
  | refl => exact valid
  | tail _ moved ih =>
    obtain ⟨secret, commit, moved⟩ := moved
    exact ih.of_moved moved

theorem of_added {tx : Transaction} {script : Script} (valid : before.IsValid)
    (added : Added oracle tx script before after) : after.IsValid := by
  cases added with
  | @intro terms _ _ _ _ _ _ read _ _ _ _ _ ordered =>
    have sorted := valid.of_ordered ordered
    refine ⟨sorted.deposit, fun commit member => ?_, sorted.revoked⟩
    rcases List.mem_append.mp member with earlier | last
    · exact sorted.active commit earlier
    · cases List.mem_singleton.mp last
      exact ⟨terms, read, fun _ known => nomatch known⟩

theorem of_effect {request : Request} {ok : Bool} (effect : Effect oracle request ok before after)
    (valid : before.IsValid) : after.IsValid := by
  cases effect with
  | reordered _ order => exact valid.of_reordered order
  | loaded load => exact (Snapshot.check_eq_ok.mp load.checked).of_ordered load.ordered
  | cleared => exact empty
  | payerKey set =>
    obtain ⟨rfl, -⟩ := setPayerKey_eq_ok set
    exact ⟨valid.deposit, valid.active, valid.revoked⟩
  | payeeKey set =>
    obtain ⟨rfl, -⟩ := setPayeeKey_eq_ok set
    exact ⟨valid.deposit, valid.active, valid.revoked⟩
  | deposit set =>
    obtain ⟨terms, read, _, _, _, _, _, rfl⟩ := setDeposit_eq_ok.mp set
    refine ⟨fun script there => ?_, valid.active, valid.revoked⟩
    cases there
    exact ⟨terms, read⟩
  | timeoutTransaction | changeTransaction | spendSecret | requested =>
    exact ⟨valid.deposit, valid.active, valid.revoked⟩
  | added add => exact valid.of_added add
  | revoked revoke => exact valid.of_moves (moves_of_revoke revoke)
  | revokedAll moves => exact valid.of_moves moves

end State.IsValid

theorem Commit.takeOut_isOk (hash : Hash160) {commits : List Commit}
    (valid : ∀ commit ∈ commits, commit.IsValid) : ∃ result, takeOut hash commits = .ok result := by
  induction commits with
  | nil => exact ⟨none, rfl⟩
  | cons commit rest ih =>
    obtain ⟨found, named⟩ := (valid commit (by simp)).revokeHash_eq_ok
    obtain ⟨result, taken⟩ := ih fun other member => valid other (List.mem_cons_of_mem _ member)
    rw [takeOut_cons, named, taken]
    change ∃ answer, (if found = hash then .ok (some (commit, rest))
      else .ok (result.map fun p => (p.1, commit :: p.2))) = Except.ok answer
    split
    · exact ⟨_, rfl⟩
    · exact ⟨_, rfl⟩

namespace State

theorem revoke_isOk (valid : before.IsValid) (secret : Secret) :
    ∃ answer, before.revoke secret = .ok answer := by
  obtain ⟨result, taken⟩ := Commit.takeOut_isOk secret.hash valid.active
  rw [revoke, taken]
  cases result with
  | none => exact ⟨_, rfl⟩
  | some pair => exact ⟨_, rfl⟩

end State

/-- Where the commits are valid, no secret of several meets a script that cannot be read. -/
theorem State.IsValid.exists_revocations {before : State} (valid : before.IsValid)
    (secrets : List Secret) : ∃ found after, Revocations before secrets found after := by
  induction secrets generalizing before with
  | nil => exact ⟨[], before, .none⟩
  | cons secret rest ih =>
    obtain ⟨⟨found, middle⟩, first⟩ := State.revoke_isOk valid secret
    obtain ⟨others, after, revocations⟩ := ih (valid.of_moves (State.moves_of_revoke first))
    exact ⟨found :: others, after, .next first revocations⟩

theorem Action.revokeAll_succeeds (valid : before.IsValid) (secrets : List Secret) :
    (revokeAll secrets : Action σ (List (Option Commit))).Ends before fun result _ =>
      result.isOk = true := by
  intro chain
  obtain ⟨found, after, revocations⟩ := valid.exists_revocations secrets
  rw [revokeAll_eq revocations]
  rfl

end Channel
end PaymentChannel
