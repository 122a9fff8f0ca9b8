import PaymentChannel.Proofs.Channel.Answers
import PaymentChannel.Proofs.Channel.Sorting

/-! Putting the active commits in order, as one step. All their quantities are asked for before any of
them is moved, so that it fails as a whole or sorts as a whole; the sort is stable, and what it
returns are the quantities of the commits as they then stand. Sorted commits stay where they are. -/
namespace PaymentChannel.Channel

variable {σ : Type} {oracle : Oracle σ} {quantity : Transaction → UInt64}
  {answers : Transaction → Prop} {chain : σ} {state : State}

theorem getLast?_eq_some_iff {quantities : List UInt64} (ascending : quantities.Pairwise (· ≤ ·))
    {n : UInt64} : quantities.getLast? = some n ↔ n ∈ quantities ∧ ∀ m ∈ quantities, m ≤ n := by
  rcases List.eq_nil_or_concat' quantities with rfl | ⟨front, last, rfl⟩
  · simp
  · have top := le_highest ascending
    rw [highest_concat] at top
    have present : last ∈ front ++ [last] := by simp
    rw [List.getLast?_concat, Option.some_inj]
    constructor
    · rintro rfl
      exact ⟨present, top⟩
    · rintro ⟨member, above⟩
      exact UInt64.le_antisymm (above last present) (top n member)

namespace State

theorem sorted_sorted (quantity : Transaction → UInt64) (state : State) :
    (state.sorted quantity).sorted quantity = state.sorted quantity := by
  have ascending := (sorts_sorted quantity state).ascending
  have still : (state.sorted quantity).active.mergeSort
      (fun a b => quantity a.transaction ≤ quantity b.transaction) =
      (state.sorted quantity).active :=
    List.mergeSort_of_pairwise (by simpa only [decide_eq_true_eq] using ascending)
  exact congrArg (fun active => { state with active }) still

/-- The quantities in order do not tell in which order the commits were. -/
theorem quantities_sorted_of_perm {active : List Commit} (perm : active.Perm state.active) :
    ({ state with active }.sorted quantity).quantities quantity =
      (state.sorted quantity).quantities quantity := by
  have same := (sorts_sorted quantity { state with active }).perm.trans
    (perm.trans (sorts_sorted quantity state).perm.symm)
  exact (same.map _).eq_of_pairwise (fun _ _ _ _ => UInt64.le_antisymm)
    (ascending_sorted quantity _) (ascending_sorted quantity state)

/-- The last of the quantities in order is the greatest of all. -/
theorem getLast?_sorted_eq_some_iff {n : UInt64} :
    ((state.sorted quantity).quantities quantity).getLast? = some n ↔
      (∃ commit ∈ state.active, quantity commit.transaction = n) ∧
        ∀ commit ∈ state.active, quantity commit.transaction ≤ n := by
  rw [getLast?_eq_some_iff (ascending_sorted quantity state)]
  simp only [quantities, List.mem_map, forall_exists_index, and_imp, forall_apply_eq_imp_iff₂,
    mem_sorted]

end State

namespace Action

theorem orderActive_in_turn (fixed : oracle.IsFixedInTurn quantity answers state.carriers chain)
    (answered : ∀ commit ∈ state.active, answers commit.transaction) :
    ∃ later, orderActive oracle ⟨state, chain⟩ =
      (.ok ((state.sorted quantity).quantities quantity), ⟨state.sorted quantity, later⟩) := by
  obtain ⟨later, ordered⟩ := State.order_in_turn fixed answered
  exact ⟨later, orderActive_eq_ok.mpr ordered⟩

/-- Commits that are in order stay as they are. -/
theorem orderActive_sorted
    (fixed : oracle.IsFixedInTurn quantity answers (state.sorted quantity).carriers chain)
    (answered : ∀ commit ∈ state.active, answers commit.transaction) :
    ∃ later, orderActive oracle ⟨state.sorted quantity, chain⟩ =
      (.ok ((state.sorted quantity).quantities quantity), ⟨state.sorted quantity, later⟩) := by
  obtain ⟨later, ordered⟩ := orderActive_in_turn fixed
    fun commit member => answered commit (State.mem_sorted.mp member)
  rw [State.sorted_sorted] at ordered
  exact ⟨later, ordered⟩

theorem answers_of_orderActive
    (fixed : oracle.IsFixedInTurn quantity answers state.carriers chain) {quantities : List UInt64}
    (ok : (orderActive oracle ⟨state, chain⟩).1 = .ok quantities) :
    ∀ commit ∈ state.active, answers commit.transaction := by
  obtain ⟨after, ended⟩ := result_eq_ok.mp ok
  exact State.answers_of_order fixed (orderActive_eq_ok.mp ended)

theorem orderActive_fails_iff
    (fixed : oracle.IsFixedInTurn quantity answers state.carriers chain) :
    (∃ fault, (orderActive oracle ⟨state, chain⟩).1 = .error fault) ↔
      ∃ commit ∈ state.active, ¬ answers commit.transaction := by
  constructor
  · rintro ⟨fault, failed⟩
    by_contra none
    have answered : ∀ commit ∈ state.active, answers commit.transaction := by
      intro commit member
      by_contra unanswered
      exact none ⟨commit, member, unanswered⟩
    obtain ⟨later, ordered⟩ := orderActive_in_turn fixed answered
    rw [ordered] at failed
    cases failed
  · rintro ⟨commit, member, unanswered⟩
    cases ended : (orderActive oracle ⟨state, chain⟩).1 with
    | error fault => exact ⟨fault, rfl⟩
    | ok quantities => exact (unanswered (answers_of_orderActive fixed ended commit member)).elim

/-- Where it succeeds, the commits are sorted, and what is returned are their quantities. -/
theorem orderActive_sorts (fixed : oracle.IsFixedInTurn quantity answers state.carriers chain)
    {quantities : List UInt64} (ok : (orderActive oracle ⟨state, chain⟩).1 = .ok quantities) :
    (orderActive oracle ⟨state, chain⟩).2.state = state.sorted quantity ∧
      quantities = (state.sorted quantity).quantities quantity := by
  obtain ⟨later, ordered⟩ := orderActive_in_turn fixed (answers_of_orderActive fixed ok)
  rw [ordered] at ok ⊢
  cases ok
  exact ⟨rfl, rfl⟩

end Action

/-- In any state, where the oracle answers for a transaction with one quantity, or fails for it, as
often as it is asked for it meanwhile: putting the active commits in order fails exactly if it fails
for one of them, and then nothing has changed. Otherwise they are sorted by quantity, those of one
quantity as they were, and nothing else has changed; what is returned are their quantities one by
one, the last of which is the greatest of all, in whatever order the commits were; and to do so again
returns the same and changes nothing. -/
theorem ordering_is_all_or_nothing (oracle : Oracle σ) (quantity : Transaction → UInt64)
    (answers : Transaction → Prop) (before : State) (chain : σ)
    (fixed : oracle.IsFixedInTurn quantity answers before.carriers chain) :
    let ordering := Action.orderActive oracle ⟨before, chain⟩
    let after := ordering.2.state
    ((∃ fault, ordering.1 = .error fault) ↔
      ∃ commit ∈ before.active, ¬ answers commit.transaction) ∧
    (∀ fault, ordering.1 = .error fault → IsOracleFault fault ∧ after = before) ∧
    ∀ quantities, ordering.1 = .ok quantities →
      Sorts quantity before.active after.active ∧
      after = { before with active := after.active } ∧
      quantities = after.active.map (fun commit => quantity commit.transaction) ∧
      (∀ active, active.Perm before.active →
        (∀ n, quantities.getLast? = some n ↔
          (∃ commit ∈ active, quantity commit.transaction = n) ∧
            ∀ commit ∈ active, quantity commit.transaction ≤ n) ∧
        ∀ moment, oracle.IsFixedInTurn quantity answers { before with active }.carriers moment →
          (Action.orderActive oracle ⟨{ before with active }, moment⟩).1 = .ok quantities) ∧
      ∀ moment, oracle.IsFixedInTurn quantity answers after.carriers moment →
        let again := Action.orderActive oracle ⟨after, moment⟩
        again.1 = .ok quantities ∧ again.2.state = after := by
  intro ordering after
  refine ⟨Action.orderActive_fails_iff fixed,
    fun fault failed => (Action.orderActive_ends before).of_error failed, ?_⟩
  intro quantities ok
  have answered := Action.answers_of_orderActive fixed ok
  obtain ⟨sorted, returned⟩ : after = before.sorted quantity ∧ _ := Action.orderActive_sorts fixed ok
  rw [sorted, returned]
  refine ⟨State.sorts_sorted quantity before, rfl, rfl, fun active perm => ⟨fun n => ?_, ?_⟩, ?_⟩
  · rw [State.getLast?_sorted_eq_some_iff]
    simp only [perm.mem_iff]
  · intro moment fixed'
    obtain ⟨later, ordered⟩ := Action.orderActive_in_turn fixed'
      fun commit member => answered commit (perm.subset member)
    rw [ordered, State.quantities_sorted_of_perm perm]
  · intro moment fixed'
    obtain ⟨later, ordered⟩ := Action.orderActive_sorted fixed' answered
    exact ⟨congrArg Prod.fst ordered, congrArg (·.2.state) ordered⟩

namespace Sample

/-- Answers what transactions carry, as often as its patience lasts. -/
def patientOracle : Oracle Nat where
  confirmations _ patience := (.error (.notFound ""), patience)
  quantity tx patience :=
    match patience with
    | 0 => (.error (.unavailable ""), 0)
    | left + 1 => (.ok (carried tx), left)

theorem patientOracle_isFixedInTurn (txs : List Transaction) {patience : Nat}
    (enough : txs.length ≤ patience) :
    patientOracle.IsFixedInTurn carried (fun _ => True) txs patience := by
  induction txs generalizing patience with
  | nil => trivial
  | cons tx rest ih =>
    cases patience with
    | zero => cases enough
    | succ left =>
      refine ⟨fun n => ?_, fun _ => ih (Nat.le_of_succ_le_succ enough)⟩
      rw [true_and]
      exact ⟨fun same => (Except.ok.inj same).symm, congrArg Except.ok ∘ Eq.symm⟩

/-- A commit to any script, none of which is read here. -/
def bearer (quantity : UInt64) (script : Script) : Commit := ⟨.placeholder 1 quantity, script, none⟩

def unordered : State := { active := [bearer 20 [1], bearer 20 [2], bearer 10 [3]] }

end Sample

/-- The patience of the oracle ends with the call, and two of the commits carry the same. -/
theorem ordering_is_all_or_nothing_twins :
    let ordering := Action.orderActive Sample.patientOracle ⟨Sample.unordered, 3⟩
    let again := Action.orderActive Sample.patientOracle ⟨ordering.2.state, 5⟩
    Sample.patientOracle.IsFixedInTurn Sample.carried (fun _ => True) Sample.unordered.carriers 3 ∧
    ∃ quantities, ordering.1 = .ok quantities ∧ quantities.getLast? = some 20 ∧
      ordering.2.state.active.filter (Sample.carried ·.transaction = 20) =
        [Sample.bearer 20 [1], Sample.bearer 20 [2]] ∧
      again.1 = .ok quantities ∧ again.2.state = ordering.2.state := by
  intro ordering again
  have fixed := Sample.patientOracle_isFixedInTurn Sample.unordered.carriers (Nat.le_refl 3)
  obtain ⟨fails, -, succeeds⟩ := ordering_is_all_or_nothing Sample.patientOracle Sample.carried
    (fun _ => True) Sample.unordered 3 fixed
  refine ⟨fixed, ?_⟩
  cases ended : ordering.1 with
  | error fault =>
    obtain ⟨commit, -, unanswered⟩ := fails.mp ⟨fault, ended⟩
    exact (unanswered trivial).elim
  | ok quantities =>
    obtain ⟨sorts, -, -, greatest, repeated⟩ := succeeds quantities ended
    have enough : ordering.2.state.carriers.length ≤ 5 := by
      rw [State.carriers, List.length_map, sorts.perm.length_eq]
      decide
    exact ⟨quantities, rfl, ((greatest _ (.refl _)).1 20).mpr (by decide), sorts.stable 20,
      repeated 5 (Sample.patientOracle_isFixedInTurn _ enough)⟩

end PaymentChannel.Channel
