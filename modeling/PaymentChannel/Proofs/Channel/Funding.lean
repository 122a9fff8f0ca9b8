import PaymentChannel.Proofs.Channel.Consistency
import PaymentChannel.Proofs.Channel.Ordering

/-! What backs the active commits. Adding and loading compare them with a deposit that is there, and
a deposit stays, so that under an oracle whose quantities do not change every active commit is within
the deposit. A deposit that comes to commits which were loaded without one is not compared with them:
unless it happens to carry enough, it falls short of them. -/
namespace PaymentChannel.Channel

variable {σ : Type} {oracle : Oracle σ} {quantity : Transaction → UInt64}

namespace State

/-- There is a deposit wherever there is an active commit, and it carries as much. -/
def IsFunded (quantity : Transaction → UInt64) (state : State) : Prop :=
  ∀ commit ∈ state.active, ∃ tx, state.depositTransaction = some tx ∧
    quantity commit.transaction ≤ quantity tx

/-- The greatest quantity in order is within the deposit. -/
theorem IsFunded.highest_le {state : State} {tx : Transaction} (funded : state.IsFunded quantity)
    (inhabited : state.quantities quantity ≠ []) (there : state.depositTransaction = some tx) :
    highest (state.quantities quantity) ≤ quantity tx := by
  obtain ⟨commit, member, same⟩ := List.mem_map.mp (highest_mem inhabited)
  obtain ⟨found, deposited, within⟩ := funded commit member
  cases there.symm.trans deposited
  exact same ▸ within

/-- Where there is a deposit, no active commit carries more. -/
def IsCovered (quantity : Transaction → UInt64) (state : State) : Prop :=
  ∀ tx, state.depositTransaction = some tx →
    ∀ commit ∈ state.active, quantity commit.transaction ≤ quantity tx

/-- A deposit that comes to commits without one carries as much as each of them. -/
def AllowsDeposit (quantity : Transaction → UInt64) (state : State) : Request → Prop
  | .setDeposit _ tx => state.depositTransaction = none →
    ∀ commit ∈ state.active, quantity commit.transaction ≤ quantity tx
  | _ => True

theorem IsConsistent.exists_deposit {state : State} (consistent : state.IsConsistent)
    {commit : Commit} (member : commit ∈ state.active) : ∃ tx, state.depositTransaction = some tx := by
  have listed : commit.entry ∈ state.entries :=
    List.mem_map_of_mem (List.mem_append_left state.revoked member)
  obtain ⟨_, tx, _, -, there, -⟩ := consistent.backed commit.entry listed
  exact ⟨tx, there⟩

theorem IsConsistent.isFunded {state : State} (consistent : state.IsConsistent)
    (covered : state.IsCovered quantity) : state.IsFunded quantity := by
  intro commit member
  obtain ⟨tx, there⟩ := consistent.exists_deposit member
  exact ⟨tx, there, covered tx there commit member⟩

/-- In a consistent channel no commit is without a deposit. -/
theorem IsConsistent.allowsDeposit {state : State} (consistent : state.IsConsistent)
    (request : Request) : state.AllowsDeposit quantity request := by
  cases request
  case setDeposit script tx =>
    intro absent commit member
    obtain ⟨other, there⟩ := consistent.exists_deposit member
    cases absent.symm.trans there
  all_goals trivial

namespace IsCovered

variable {before after : State}

theorem empty : IsCovered quantity {} := by
  simp [IsCovered]

theorem of_subset (covered : before.IsCovered quantity) (fewer : after.active ⊆ before.active)
    (same : SameSetup before after) : after.IsCovered quantity := by
  intro tx there commit member
  exact covered tx (same.depositTransaction ▸ there) commit (fewer member)

theorem of_moves (covered : before.IsCovered quantity) (moves : Moves before after) :
    after.IsCovered quantity :=
  covered.of_subset moves.active_sublist.subset moves.sameSetup

theorem of_added {tx : Transaction} {script : Script} (steady : oracle.IsSteady quantity)
    (covered : before.IsCovered quantity) (added : Added oracle tx script before after) :
    after.IsCovered quantity := by
  have same := added.sameSetup
  cases added with
  | @intro _ _ _ middle n total depositTx _ _ _ _ _ _ ordered carried _ deposited answered within =>
    cases steady tx n carried
    cases steady depositTx total answered
    intro other there commit member
    cases deposited.symm.trans (same.depositTransaction ▸ there)
    rcases List.mem_append.mp member with earlier | last
    · exact covered depositTx deposited commit (ordered.perm.subset earlier)
    · exact List.mem_singleton.mp last ▸ within

theorem of_setDeposit {script : Script} {tx : Transaction} (covered : before.IsCovered quantity)
    (allowed : before.AllowsDeposit quantity (.setDeposit script tx))
    (set : before.setDeposit script tx = .ok after) : after.IsCovered quantity := by
  obtain ⟨_, _, _, same, _, _, _, rfl⟩ := setDeposit_eq_ok.mp set
  intro other there commit member
  cases there
  cases deposited : before.depositTransaction with
  | none => exact allowed deposited commit member
  | some earlier => exact same earlier deposited ▸ covered earlier deposited commit member

theorem of_loaded {snapshot : Snapshot} {answers : List UInt64} (steady : oracle.IsSteady quantity)
    (loaded : Loaded oracle snapshot answers after) : after.IsCovered quantity := by
  have same := loaded.ordered.answers_eq steady
  intro tx there commit member
  have listed : quantity commit.transaction ∈ answers := same ▸ List.mem_map.mpr ⟨commit, member, rfl⟩
  have stored : snapshot.depositTransaction = some tx :=
    loaded.ordered.sameSetup.depositTransaction.symm.trans there
  obtain ⟨total, answered, within⟩ := loaded.within tx stored (List.ne_nil_of_mem listed)
  cases steady tx total answered
  exact UInt64.le_trans (le_highest loaded.ordered.ascending _ listed) within

theorem of_effect {request : Request} {ok : Bool} (steady : oracle.IsSteady quantity)
    (allowed : before.AllowsDeposit quantity request)
    (effect : Effect oracle request ok before after) (covered : before.IsCovered quantity) :
    after.IsCovered quantity := by
  cases effect with
  | reordered _ order =>
    rcases order with rfl | ⟨quantities, ordered⟩
    · exact covered
    · exact covered.of_subset ordered.perm.subset ordered.sameSetup
  | loaded load => exact of_loaded steady load
  | cleared => exact empty
  | payerKey set =>
    obtain ⟨rfl, -⟩ := setPayerKey_eq_ok set
    exact covered
  | payeeKey set =>
    obtain ⟨rfl, -⟩ := setPayeeKey_eq_ok set
    exact covered
  | deposit set => exact covered.of_setDeposit allowed set
  | timeoutTransaction | changeTransaction | spendSecret | requested => exact covered
  | added add => exact covered.of_added steady add
  | revoked revoke => exact covered.of_moves (moves_of_revoke revoke)
  | revokedAll moves => exact covered.of_moves moves

end IsCovered
end State
end PaymentChannel.Channel
