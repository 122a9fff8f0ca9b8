import Mathlib.Data.List.Nodup
import PaymentChannel.Proofs.Channel.Ordering
import PaymentChannel.Proofs.Channel.Success

/-! Putting the active commits in order while nothing happens to the oracle. It answers for the same
transactions with the same quantities however often it is asked, so that the order is that of a
stable sort by these quantities, and a failed lookup is one of a transaction it never answers for.
That much holds already where it does so for the lookups that are made. -/
namespace PaymentChannel

namespace Oracle

variable {σ : Type} (oracle : Oracle σ)

/-- What may become of the oracle by asking it for quantities. -/
def Asked : σ → σ → Prop :=
  Relation.ReflTransGen fun before after => ∃ tx, after = (oracle.quantity tx before).2

/-- From this moment on, for as long as it is asked for nothing but quantities, the oracle answers
for some transactions, each time with the same quantity, and fails for the others. -/
def IsFixed (quantity : Transaction → UInt64) (answers : Transaction → Prop) (chain : σ) : Prop :=
  ∀ later, oracle.Asked chain later → ∀ tx n,
    (oracle.quantity tx later).1 = .ok n ↔ answers tx ∧ n = quantity tx

/-- Asked for the quantities of these transactions in turn, and no further than a failure, the oracle
answers for some transactions, each time with the same quantity, and fails for the others. -/
def IsFixedInTurn (quantity : Transaction → UInt64) (answers : Transaction → Prop) :
    List Transaction → σ → Prop
  | [], _ => True
  | tx :: rest, chain =>
    (∀ n, (oracle.quantity tx chain).1 = .ok n ↔ answers tx ∧ n = quantity tx) ∧
      (answers tx → IsFixedInTurn quantity answers rest (oracle.quantity tx chain).2)

variable {oracle} {quantity : Transaction → UInt64} {answers : Transaction → Prop} {chain : σ}

theorem isFixed_of_unchanged (unchanged : ∀ tx, (oracle.quantity tx chain).2 = chain)
    (answered : ∀ tx n, (oracle.quantity tx chain).1 = .ok n ↔ answers tx ∧ n = quantity tx) :
    oracle.IsFixed quantity answers chain := by
  intro later asked
  have same : later = chain := by
    induction asked with
    | refl => rfl
    | tail _ step ih =>
      obtain ⟨tx, rfl⟩ := step
      rw [ih, unchanged]
  exact same ▸ answered

namespace IsFixed

variable (fixed : oracle.IsFixed quantity answers chain) {tx : Transaction} {n : UInt64} {later : σ}
include fixed

theorem quantity_eq_ok (asked : oracle.quantity tx chain = (.ok n, later)) :
    answers tx ∧ n = quantity tx :=
  (fixed chain .refl tx n).mp (congrArg Prod.fst asked)

theorem next (tx : Transaction) : oracle.IsFixed quantity answers (oracle.quantity tx chain).2 :=
  fun _ asked => fixed _ (.head ⟨tx, rfl⟩ asked)

theorem next_of (asked : oracle.quantity tx chain = (.ok n, later)) :
    oracle.IsFixed quantity answers later := by
  have moved := fixed.next tx
  rwa [asked] at moved

theorem of_asked (asked : oracle.Asked chain later) : oracle.IsFixed quantity answers later :=
  fun _ more => fixed _ (asked.trans more)

theorem inTurn (txs : List Transaction) : oracle.IsFixedInTurn quantity answers txs chain := by
  induction txs generalizing chain with
  | nil => trivial
  | cons tx rest ih => exact ⟨fixed chain .refl tx, fun _ => ih (fixed.next tx)⟩

theorem exists_quantity (answered : answers tx) :
    ∃ later, oracle.quantity tx chain = (.ok (quantity tx), later) ∧
      oracle.IsFixed quantity answers later :=
  ⟨_, Prod.ext ((fixed chain .refl tx _).mpr ⟨answered, rfl⟩) rfl, fixed.next tx⟩

theorem exists_error (unanswered : ¬ answers tx) :
    ∃ error later, oracle.quantity tx chain = (.error error, later) := by
  cases asked : oracle.quantity tx chain with
  | mk result later =>
    cases result with
    | error error => exact ⟨error, later, rfl⟩
    | ok n => exact (unanswered (fixed.quantity_eq_ok asked).1).elim

end IsFixed
end Oracle

namespace Channel

variable {σ : Type} {oracle : Oracle σ} {quantity : Transaction → UInt64}
  {answers : Transaction → Prop} {chain : σ}

/-- The same commits in ascending order of quantity; those of one quantity keep their order. -/
structure Sorts (quantity : Transaction → UInt64) (before after : List Commit) : Prop where
  perm : after.Perm before
  ascending : after.Pairwise fun a b => quantity a.transaction ≤ quantity b.transaction
  stable : ∀ n, after.filter (quantity ·.transaction = n) =
    before.filter (quantity ·.transaction = n)

/-- Where no two commits carry the same, one order is ascending. -/
theorem Sorts.unique {first second before after : List Commit} (sorts : Sorts quantity first before)
    (again : Sorts quantity second after) (perm : first.Perm second)
    (distinct : (first.map fun commit => quantity commit.transaction).Nodup) : before = after := by
  have same : before.Perm after := sorts.perm.trans (perm.trans again.perm.symm)
  have differ : (before.map fun commit => quantity commit.transaction).Nodup :=
    ((sorts.perm.map _).nodup_iff).mpr distinct
  refine same.eq_of_pairwise (fun a b first second below above => ?_) sorts.ascending again.ascending
  exact List.inj_on_of_nodup_map differ first (same.mem_iff.mpr second)
    (UInt64.le_antisymm below above)

theorem highest_lt_iff {quantities : List UInt64} (ascending : quantities.Pairwise (· ≤ ·))
    {n : UInt64} : highest quantities < n ↔ 0 < n ∧ ∀ m ∈ quantities, m < n := by
  constructor
  · intro above
    refine ⟨UInt64.lt_of_le_of_lt UInt64.zero_le above, fun m member => ?_⟩
    exact UInt64.lt_of_le_of_lt (le_highest ascending m member) above
  · rintro ⟨positive, above⟩
    rcases List.eq_nil_or_concat' quantities with rfl | ⟨front, last, rfl⟩
    · exact positive
    · rw [highest_concat]
      exact above last (by simp)

theorem highest_le_iff {quantities : List UInt64} (ascending : quantities.Pairwise (· ≤ ·))
    {n : UInt64} : highest quantities ≤ n ↔ ∀ m ∈ quantities, m ≤ n := by
  constructor
  · intro within m member
    exact UInt64.le_trans (le_highest ascending m member) within
  · intro within
    rcases List.eq_nil_or_concat' quantities with rfl | ⟨front, last, rfl⟩
    · exact UInt64.zero_le
    · exact within _ (highest_mem (by simp))

namespace State

variable {state : State}

/-- The state with its active commits in ascending order of quantity. -/
def sorted (quantity : Transaction → UInt64) (state : State) : State :=
  { state with
    active := state.active.mergeSort fun a b => quantity a.transaction ≤ quantity b.transaction }

theorem sorts_sorted (quantity : Transaction → UInt64) (state : State) :
    Sorts quantity state.active (state.sorted quantity).active where
  perm := List.mergeSort_perm _ _
  ascending := pairwise_sort (fun commit : Commit => quantity commit.transaction) _
  stable := filter_sort (fun commit : Commit => quantity commit.transaction) _

theorem ascending_sorted (quantity : Transaction → UInt64) (state : State) :
    ((state.sorted quantity).quantities quantity).Pairwise (· ≤ ·) :=
  List.pairwise_map.mpr (sorts_sorted quantity state).ascending

theorem mem_sorted {commit : Commit} :
    commit ∈ (state.sorted quantity).active ↔ commit ∈ state.active :=
  (sorts_sorted quantity state).perm.mem_iff

theorem highest_sorted_lt_iff {n : UInt64} :
    highest ((state.sorted quantity).quantities quantity) < n ↔
      0 < n ∧ ∀ commit ∈ state.active, quantity commit.transaction < n := by
  rw [highest_lt_iff (ascending_sorted quantity state)]
  simp only [quantities, List.mem_map, forall_exists_index, and_imp, forall_apply_eq_imp_iff₂,
    mem_sorted]

theorem highest_sorted_le_iff {n : UInt64} :
    highest ((state.sorted quantity).quantities quantity) ≤ n ↔
      ∀ commit ∈ state.active, quantity commit.transaction ≤ n := by
  rw [highest_le_iff (ascending_sorted quantity state)]
  simp only [quantities, List.mem_map, forall_exists_index, and_imp, forall_apply_eq_imp_iff₂,
    mem_sorted]

theorem strict_sorted_iff : ((state.sorted quantity).quantities quantity).Pairwise (· < ·) ↔
    (state.quantities quantity).Nodup := by
  rw [pairwise_lt_iff_nodup (ascending_sorted quantity state)]
  exact ((sorts_sorted quantity state).perm.map _).nodup_iff

private theorem sort_zip (commits : List Commit) :
    ((commits.map fun commit => quantity commit.transaction).zip commits).mergeSort
      (fun a b => a.1 ≤ b.1) =
    (commits.mergeSort fun a b => quantity a.transaction ≤ quantity b.transaction).map
      fun commit => (quantity commit.transaction, commit) := by
  have paired : (commits.map fun commit => quantity commit.transaction).zip commits =
      commits.map fun commit => (quantity commit.transaction, commit) := by
    simpa using List.zip_map' (l := commits) (f := fun commit => quantity commit.transaction) (g := id)
  rw [paired, List.map_mergeSort]
  intro a _ b _
  rfl

private theorem quantities_of_fixed {commits : List Commit} {chain : σ}
    (fixed : oracle.IsFixedInTurn quantity answers (commits.map (·.transaction)) chain)
    (answered : ∀ commit ∈ commits, answers commit.transaction) :
    ∃ later, (commits.mapM fun commit => quantityOf oracle commit.transaction) chain =
      (.ok (commits.map fun commit => quantity commit.transaction), later) := by
  induction commits generalizing chain with
  | nil => exact ⟨chain, rfl⟩
  | cons commit rest ih =>
    obtain ⟨first, others⟩ := List.forall_mem_cons.mp answered
    have asked : oracle.quantity commit.transaction chain = (.ok (quantity commit.transaction), _) :=
      Prod.ext ((fixed.1 _).mpr ⟨first, rfl⟩) rfl
    obtain ⟨later, more⟩ := ih (fixed.2 first) others
    refine ⟨later, ?_⟩
    rw [List.mapM_cons, bind_eq (quantityOf_eq_ok.mpr asked), bind_eq more]
    rfl

private theorem answers_of_quantities {commits : List Commit} {chain later : σ}
    {found : List UInt64}
    (fixed : oracle.IsFixedInTurn quantity answers (commits.map (·.transaction)) chain)
    (ok : (commits.mapM fun commit => quantityOf oracle commit.transaction) chain =
      (.ok found, later)) : ∀ commit ∈ commits, answers commit.transaction := by
  induction commits generalizing chain later found with
  | nil => simp
  | cons commit rest ih =>
    rw [List.mapM_cons] at ok
    simp only [bind_eq_ok, quantityOf_eq_ok] at ok
    obtain ⟨n, middle, asked, others, later, more, -⟩ := ok
    have first := ((fixed.1 n).mp (congrArg Prod.fst asked)).1
    have left := fixed.2 first
    rw [asked] at left
    exact List.forall_mem_cons.mpr ⟨first, ih left more⟩

private theorem asked_of_quantities {commits : List Commit} {chain later : σ} {found : List UInt64}
    (ok : (commits.mapM fun commit => quantityOf oracle commit.transaction) chain =
      (.ok found, later)) : oracle.Asked chain later := by
  induction commits generalizing chain later found with
  | nil =>
    cases ok
    exact .refl
  | cons commit rest ih =>
    rw [List.mapM_cons] at ok
    simp only [bind_eq_ok, quantityOf_eq_ok, pure_eq_ok] at ok
    obtain ⟨n, middle, asked, others, _, more, -, rfl⟩ := ok
    exact .head ⟨commit.transaction, (congrArg Prod.snd asked).symm⟩ (ih more)

/-- Where the oracle answers for every active commit as it is asked for it, they are sorted by its
answers. -/
theorem order_in_turn (fixed : oracle.IsFixedInTurn quantity answers
    (state.active.map (·.transaction)) chain)
    (answered : ∀ commit ∈ state.active, answers commit.transaction) :
    ∃ later, order oracle state chain =
      (.ok ((state.sorted quantity).quantities quantity, state.sorted quantity), later) := by
  obtain ⟨later, asked⟩ := quantities_of_fixed fixed answered
  refine ⟨later, ?_⟩
  rw [order, bind_eq asked, sort_zip]
  simp only [List.map_map, Function.comp_def, List.map_id']
  rfl

theorem answers_of_order {answer : List UInt64 × State} {later : σ}
    (fixed : oracle.IsFixedInTurn quantity answers (state.active.map (·.transaction)) chain)
    (ok : order oracle state chain = (.ok answer, later)) :
    ∀ commit ∈ state.active, answers commit.transaction := by
  obtain ⟨_, _, asked, -⟩ := bind_eq_ok.mp ok
  exact answers_of_quantities fixed asked

theorem asked_of_order {answer : List UInt64 × State} {later : σ}
    (ok : order oracle state chain = (.ok answer, later)) : oracle.Asked chain later := by
  obtain ⟨_, _, asked, ended⟩ := bind_eq_ok.mp ok
  cases ended
  exact asked_of_quantities asked

/-- Where the oracle answers for every active commit, they are sorted by its answers. -/
theorem order_of_fixed (fixed : oracle.IsFixed quantity answers chain)
    (answered : ∀ commit ∈ state.active, answers commit.transaction) :
    ∃ later, order oracle state chain =
      (.ok ((state.sorted quantity).quantities quantity, state.sorted quantity), later) ∧
      oracle.IsFixed quantity answers later := by
  obtain ⟨later, ordered⟩ := order_in_turn (fixed.inTurn _) answered
  exact ⟨later, ordered, fixed.of_asked (asked_of_order ordered)⟩

/-- They can be put in order only if it answers for all of them. -/
theorem order_eq_ok_of_fixed (fixed : oracle.IsFixed quantity answers chain)
    {quantities : List UInt64} {after : State} {later : σ}
    (ok : order oracle state chain = (.ok (quantities, after), later)) :
    (∀ commit ∈ state.active, answers commit.transaction) ∧
      quantities = (state.sorted quantity).quantities quantity ∧ after = state.sorted quantity ∧
      oracle.IsFixed quantity answers later := by
  have answered := answers_of_order (fixed.inTurn _) ok
  obtain ⟨_, ordered, fixed⟩ := order_of_fixed fixed answered
  cases ordered.symm.trans ok
  exact ⟨answered, rfl, rfl, fixed⟩

/-- A new commit can carry `n`: more than each of the active commits and than zero, and no more than
the deposit, all of which the oracle answers for. -/
structure CanTransfer (quantity : Transaction → UInt64) (answers : Transaction → Prop)
    (state : State) (n : UInt64) : Prop where
  answered : ∀ commit ∈ state.active, answers commit.transaction
  above : ∀ commit ∈ state.active, quantity commit.transaction < n
  positive : 0 < n
  within : ∃ tx, state.depositTransaction = some tx ∧ answers tx ∧ n ≤ quantity tx

end State

/-- A quantity that can be transferred is accepted, and no other; the active commits are then in
order. -/
theorem Action.validateTransfer_eq_ok_of_fixed {state : State} {n : UInt64}
    (fixed : oracle.IsFixed quantity answers chain) :
    (∀ after, validateTransfer oracle n ⟨state, chain⟩ = (.ok (), after) →
      state.CanTransfer quantity answers n ∧ after.state = state.sorted quantity) ∧
    (state.CanTransfer quantity answers n → ∃ after,
      validateTransfer oracle n ⟨state, chain⟩ = (.ok (), after)) := by
  constructor
  · intro after ok
    obtain ⟨quantities, middle, ordered, above, tx, total, there, answered, within⟩ :=
      validateTransfer_eq_ok.mp ok
    obtain ⟨all, rfl, sorted, fixed⟩ := State.order_eq_ok_of_fixed fixed ordered
    obtain ⟨positive, above⟩ := State.highest_sorted_lt_iff.mp above
    obtain ⟨known, rfl⟩ := fixed.quantity_eq_ok answered
    rw [sorted] at there
    exact ⟨⟨all, above, positive, tx, there, known, within⟩, sorted⟩
  · intro can
    obtain ⟨tx, there, known, within⟩ := can.within
    obtain ⟨middle, ordered, fixed⟩ := State.order_of_fixed fixed can.answered
    obtain ⟨later, answered, -⟩ := fixed.exists_quantity known
    have above := State.highest_sorted_lt_iff.mpr ⟨can.positive, can.above⟩
    exact ⟨⟨state.sorted quantity, later⟩, validateTransfer_eq_ok.mpr
      ⟨_, middle, ordered, above, tx, _, there, answered, within⟩⟩

namespace Sample

theorem onlineOracle_isFixed : onlineOracle.IsFixed carried (fun _ => True) true := by
  refine Oracle.isFixed_of_unchanged (fun _ => rfl) fun tx n => ?_
  rw [true_and]
  exact ⟨fun same => (Except.ok.inj same).symm, congrArg Except.ok ∘ Eq.symm⟩

/-- A commit that carries ten times its number. -/
def carrier (n : UInt8) : Commit :=
  { transaction := .placeholder n.toUInt32 (10 * n.toUInt64), script := (commit n).toScript }

/-- A funded channel whose active commits are those of the numbers, stored. -/
def listing (numbers : List UInt8) : Snapshot := .ofState
  { depositScript := some deposit.toScript
    depositTransaction := some (.placeholder 0 100)
    active := numbers.map carrier }

end Sample
end Channel
end PaymentChannel
