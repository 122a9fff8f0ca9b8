import PaymentChannel.Proofs.Channel.Funding
import PaymentChannel.Proofs.Channel.Success
import PaymentChannel.Proofs.Channel.Validity

/-! Operations that succeed because the oracle answers. Each asks for the quantities of certain
transactions, one after another. Where just these questions are answered, saving a channel whose
commits are in order gives all of it, and a snapshot of such a channel is loaded as it is. -/
namespace PaymentChannel

/-- From this moment on, the oracle answers if it is asked for the quantities of these transactions
in turn. -/
def Oracle.AnswersInTurn {σ : Type} (oracle : Oracle σ) : List Transaction → σ → Prop
  | [], _ => True
  | tx :: rest, chain =>
    (oracle.quantity tx chain).1.isOk ∧ oracle.AnswersInTurn rest (oracle.quantity tx chain).2

instance Oracle.decidableAnswersInTurn {σ : Type} (oracle : Oracle σ) :
    (txs : List Transaction) → (chain : σ) → Decidable (oracle.AnswersInTurn txs chain)
  | [], _ => .isTrue trivial
  | tx :: rest, chain =>
    have := decidableAnswersInTurn oracle rest (oracle.quantity tx chain).2
    inferInstanceAs (Decidable ((oracle.quantity tx chain).1.isOk = true ∧ _))

variable {σ : Type} {oracle : Oracle σ} {quantity : Transaction → UInt64}

theorem Oracle.IsSteady.quantity_eq (steady : oracle.IsSteady quantity) {tx : Transaction}
    {chain : σ} (answered : (oracle.quantity tx chain).1.isOk) :
    oracle.quantity tx chain = (.ok (quantity tx), (oracle.quantity tx chain).2) := by
  cases answer : oracle.quantity tx chain with
  | mk result later =>
    cases result with
    | error cause =>
      rw [answer] at answered
      cases answered
    | ok n =>
      cases steady tx n ⟨chain, by rw [answer]⟩
      rfl

namespace Channel

namespace State

variable {state : State}

/-- The transactions whose quantities are asked for when the active commits are put in order. -/
def carriers (state : State) : List Transaction := state.active.map (·.transaction)

theorem quantities_eq (steady : oracle.IsSteady quantity) {commits : List Commit}
    {more : List Transaction} {chain : σ}
    (answers : oracle.AnswersInTurn (commits.map (·.transaction) ++ more) chain) :
    ∃ later, (commits.mapM fun commit => quantityOf oracle commit.transaction) chain =
      (.ok (commits.map fun commit => quantity commit.transaction), later) ∧
      oracle.AnswersInTurn more later := by
  induction commits generalizing chain with
  | nil => exact ⟨chain, rfl, answers⟩
  | cons commit rest ih =>
    obtain ⟨first, others⟩ := answers
    obtain ⟨later, asked, more⟩ := ih others
    refine ⟨later, ?_, more⟩
    have answered := quantityOf_eq_ok.mpr (steady.quantity_eq first)
    rw [List.mapM_cons, bind_eq answered, bind_eq asked]
    rfl

theorem order_eq (steady : oracle.IsSteady quantity) (ascending : state.IsAscending quantity)
    (more : List Transaction) {chain : σ}
    (answers : oracle.AnswersInTurn (state.carriers ++ more) chain) :
    ∃ later, order oracle state chain = (.ok (state.quantities quantity, state), later) ∧
      oracle.AnswersInTurn more later := by
  obtain ⟨later, asked, others⟩ := quantities_eq steady answers
  have succeeds : ∃ answer, order oracle state chain = (.ok answer, later) := by
    rw [order, bind_eq asked]
    exact ⟨_, rfl⟩
  -- that it succeeds is enough, as commits in order can only be sorted to themselves
  obtain ⟨⟨quantities, after⟩, succeeds⟩ := succeeds
  have ordered := ordered_of_order succeeds
  cases ordered.eq_of_ascending steady ascending
  cases ordered.answers_eq steady
  exact ⟨later, succeeds, others⟩

end State

namespace Action

variable {state : State} {chain : σ}

theorem orderActive_eq (steady : oracle.IsSteady quantity) (ascending : state.IsAscending quantity)
    (answers : oracle.AnswersInTurn state.carriers chain) :
    ∃ later, orderActive oracle ⟨state, chain⟩ =
      (.ok (state.quantities quantity), ⟨state, later⟩) := by
  obtain ⟨later, ordered, -⟩ := State.order_eq steady ascending [] (by simpa using answers)
  have asked := @ask_eq σ _ (State.order oracle) ⟨state, chain⟩ _ _ ordered
  refine ⟨later, ?_⟩
  rw [orderActive, bind_eq asked]
  rfl

theorem save_eq (steady : oracle.IsSteady quantity) (ascending : state.IsAscending quantity)
    (answers : oracle.AnswersInTurn state.carriers chain) :
    ∃ later, save oracle ⟨state, chain⟩ = (.ok (.ofState state), ⟨state, later⟩) := by
  obtain ⟨later, ordered⟩ := orderActive_eq steady ascending answers
  refine ⟨later, ?_⟩
  rw [save, bind_eq ordered]
  rfl

theorem load_eq (steady : oracle.IsSteady quantity) {snapshot : Snapshot}
    (valid : snapshot.toState.IsValid) (ascending : snapshot.toState.IsAscending quantity)
    (funded : snapshot.toState.IsFunded quantity) (other : State)
    (answers : oracle.AnswersInTurn
      (snapshot.toState.carriers ++ snapshot.depositTransaction.toList) chain) :
    ∃ later, load oracle snapshot ⟨other, chain⟩ = (.ok (), ⟨snapshot.toState, later⟩) := by
  obtain ⟨middle, ordered, deposit⟩ := State.order_eq steady ascending _ answers
  have increasing : (snapshot.toState.quantities quantity).Pairwise (· ≤ ·) :=
    ascending.strict.imp UInt64.le_of_lt
  refine load_eq_ok.mpr ⟨Snapshot.check_eq_ok.mpr valid, _, middle, ordered,
    (firstRepeat_eq_none_iff increasing).mpr ascending.strict,
    (head_ne_zero_iff increasing).mpr ascending.positive, fun tx there inhabited => ?_⟩
  -- the deposit is asked for only where there is an active commit
  have answered : (oracle.quantity tx middle).1.isOk := by
    have same : snapshot.depositTransaction = some tx := there
    rw [same] at deposit
    exact deposit.1
  exact ⟨quantity tx, _, steady.quantity_eq answered, funded.highest_le inhabited there⟩

end Action
end Channel
end PaymentChannel
