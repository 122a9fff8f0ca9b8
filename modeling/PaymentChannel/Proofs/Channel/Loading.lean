import PaymentChannel.Proofs.Channel.Sorting
import PaymentChannel.Proofs.Channel.Validity

/-! Loading a snapshot, from what is asked of it to the state that is left. The checks are made on
the quantities once they are in order: a repetition on neighbours, a zero at the front, the deposit
against the last. What they come to says nothing of an order, so that a snapshot is accepted or
refused, and loaded to one state, in whatever order it lists its commits. -/
namespace PaymentChannel

open Channel

/-- What is asked of a snapshot: scripts and revoke secrets that are those of a channel, active
commits of distinct quantities above zero, and a deposit, where there is one, that none of them
exceeds, the oracle answering for the commits and, where they are some, for the deposit. -/
structure Snapshot.IsLoadable (quantity : Transaction → UInt64) (answers : Transaction → Prop)
    (snapshot : Snapshot) : Prop where
  valid : snapshot.toState.IsValid
  answered : ∀ commit ∈ snapshot.active, answers commit.transaction
  distinct : (snapshot.active.map fun commit => quantity commit.transaction).Nodup
  positive : ∀ commit ∈ snapshot.active, 0 < quantity commit.transaction
  covered : ∀ tx, snapshot.depositTransaction = some tx → snapshot.active ≠ [] →
    answers tx ∧ ∀ commit ∈ snapshot.active, quantity commit.transaction ≤ quantity tx

variable {quantity : Transaction → UInt64} {answers : Transaction → Prop}

theorem Snapshot.IsLoadable.of_perm {snapshot : Snapshot} {active : List Commit}
    (loadable : snapshot.IsLoadable quantity answers) (perm : active.Perm snapshot.active) :
    { snapshot with active }.IsLoadable quantity answers where
  valid := ⟨loadable.valid.deposit, fun commit member => loadable.valid.active commit
    (perm.subset member), loadable.valid.revoked⟩
  answered commit member := loadable.answered commit (perm.subset member)
  distinct := ((perm.map _).nodup_iff).mpr loadable.distinct
  positive commit member := loadable.positive commit (perm.subset member)
  covered tx there inhabited := by
    have some : snapshot.active ≠ [] := fun empty => inhabited (List.perm_nil.mp (empty ▸ perm))
    obtain ⟨answered, within⟩ := loadable.covered tx there some
    exact ⟨answered, fun commit member => within commit (perm.subset member)⟩

namespace Channel

variable {σ : Type} {oracle : Oracle σ} {chain : σ} {snapshot : Snapshot}

theorem State.sorted_of_perm {state : State} {active : List Commit}
    (perm : active.Perm state.active) (distinct : (state.quantities quantity).Nodup) :
    { state with active }.sorted quantity = state.sorted quantity := by
  have sorts := sorts_sorted quantity { state with active }
  have differ : (active.map fun commit => quantity commit.transaction).Nodup :=
    ((perm.map _).nodup_iff).mpr distinct
  have same := sorts.unique (sorts_sorted quantity state) perm differ
  exact congrArg (fun active => { state with active }) same

namespace Action

/-- A loadable snapshot is loaded with its commits in order, and no other snapshot is. -/
theorem load_eq_ok_of_fixed (fixed : oracle.IsFixed quantity answers chain) {before loaded : State} :
    (∃ later, load oracle snapshot ⟨before, chain⟩ = (.ok (), ⟨loaded, later⟩)) ↔
      snapshot.IsLoadable quantity answers ∧ loaded = snapshot.toState.sorted quantity := by
  have ascending := State.ascending_sorted quantity snapshot.toState
  have inhabited_iff : (snapshot.toState.sorted quantity).quantities quantity ≠ [] ↔
      snapshot.active ≠ [] := by
    have length := (State.sorts_sorted quantity snapshot.toState).perm.length_eq
    simp only [State.quantities, ne_eq, ← List.length_eq_zero_iff, List.length_map, length]
    rfl
  rw [load_eq_ok, Snapshot.check_eq_ok]
  constructor
  · rintro ⟨valid, quantities, middle, ordered, distinct, head, within⟩
    obtain ⟨answered, rfl, rfl, fixed⟩ := State.order_eq_ok_of_fixed fixed ordered
    have strict := (firstRepeat_eq_none_iff ascending).mp distinct
    have positive := (head_ne_zero_iff ascending).mp head
    refine ⟨⟨valid, answered, State.strict_sorted_iff.mp strict, ?_, ?_⟩, rfl⟩
    · intro commit member
      exact positive _ (List.mem_map_of_mem (State.mem_sorted.mpr member))
    · intro tx there inhabited
      obtain ⟨total, later, asked, atMost⟩ := within tx there (inhabited_iff.mpr inhabited)
      obtain ⟨known, rfl⟩ := fixed.quantity_eq_ok asked
      exact ⟨known, State.highest_sorted_le_iff.mp atMost⟩
  · rintro ⟨loadable, rfl⟩
    have answered : ∀ commit ∈ snapshot.toState.active, answers commit.transaction :=
      loadable.answered
    obtain ⟨middle, ordered, fixed⟩ := State.order_of_fixed fixed answered
    refine ⟨loadable.valid, _, middle, ordered, ?_, ?_, ?_⟩
    · exact (firstRepeat_eq_none_iff ascending).mpr (State.strict_sorted_iff.mpr loadable.distinct)
    · refine (head_ne_zero_iff ascending).mpr fun n listed => ?_
      obtain ⟨commit, member, rfl⟩ := List.mem_map.mp listed
      exact loadable.positive commit (State.mem_sorted.mp member)
    · intro tx there inhabited
      obtain ⟨known, within⟩ := loadable.covered tx there (inhabited_iff.mp inhabited)
      obtain ⟨later, asked, -⟩ := fixed.exists_quantity known
      exact ⟨_, later, asked, State.highest_sorted_le_iff.mpr within⟩

theorem load_accepts_iff (fixed : oracle.IsFixed quantity answers chain) {before : State} :
    (load oracle snapshot ⟨before, chain⟩).1 = .ok () ↔ snapshot.IsLoadable quantity answers := by
  rw [result_eq_ok]
  constructor
  · rintro ⟨⟨loaded, later⟩, ok⟩
    exact ((load_eq_ok_of_fixed fixed).mp ⟨later, ok⟩).1
  · intro loadable
    obtain ⟨later, ok⟩ := (load_eq_ok_of_fixed fixed).mpr ⟨loadable, rfl⟩
    exact ⟨_, ok⟩

theorem load_sorts (fixed : oracle.IsFixed quantity answers chain) {before : State}
    (ok : (load oracle snapshot ⟨before, chain⟩).1 = .ok ()) :
    (load oracle snapshot ⟨before, chain⟩).2.state = snapshot.toState.sorted quantity :=
  ((load_eq_ok_of_fixed fixed).mp ⟨_, Prod.ext ok rfl⟩).2

end Action

/-- In any channel, while nothing happens to the oracle: a snapshot is loaded exactly where it is
loadable, and gives all of its values with the active commits in ascending order; a snapshot that is
refused leaves the channel as it was. One that lists the same active commits in another order, in any
other channel and at any other such moment, is refused with it or loaded to the same state. -/
theorem snapshots_load_in_any_order (oracle : Oracle σ) (config : Config)
    (quantity : Transaction → UInt64) (answers : Transaction → Prop) (chain : σ)
    (fixed : oracle.IsFixed quantity answers chain) (snapshot : Snapshot) (before : State) :
    let loading := serve oracle config (.load snapshot) ⟨before, chain⟩
    (loading.1 = .ok () ↔ snapshot.IsLoadable quantity answers) ∧
    (loading.1 = .ok () → ∃ sorted, Sorts quantity snapshot.active sorted ∧
      loading.2.state = { snapshot.toState with active := sorted }) ∧
    (∀ fault, loading.1 = .error fault → loading.2.state = before) ∧
    ∀ active, active.Perm snapshot.active →
      ∀ moment, oracle.IsFixed quantity answers moment → ∀ other,
        let again := serve oracle config (.load { snapshot with active }) ⟨other, moment⟩
        (again.1 = .ok () ↔ loading.1 = .ok ()) ∧
        (loading.1 = .ok () → again.2.state = loading.2.state) := by
  intro loading
  have accepted : loading.1 = .ok () ↔ snapshot.IsLoadable quantity answers :=
    Action.load_accepts_iff fixed
  have sorted (ok : loading.1 = .ok ()) : loading.2.state = snapshot.toState.sorted quantity :=
    Action.load_sorts fixed ok
  refine ⟨accepted, fun ok => ⟨_, State.sorts_sorted quantity snapshot.toState, sorted ok⟩,
    fun fault failed => (Action.load_ends before snapshot).of_error failed, ?_⟩
  intro active perm moment fixed' other again
  have accepted' : again.1 = .ok () ↔ { snapshot with active }.IsLoadable quantity answers :=
    Action.load_accepts_iff fixed'
  have same : again.1 = .ok () ↔ loading.1 = .ok () := by
    rw [accepted', accepted]
    exact ⟨fun loadable => loadable.of_perm perm.symm, fun loadable => loadable.of_perm perm⟩
  refine ⟨same, fun ok => ?_⟩
  have distinct : (snapshot.toState.quantities quantity).Nodup := (accepted.mp ok).distinct
  calc again.2.state
    _ = (Snapshot.toState { snapshot with active }).sorted quantity :=
      Action.load_sorts fixed' (same.mpr ok)
    _ = snapshot.toState.sorted quantity := State.sorted_of_perm perm distinct
    _ = loading.2.state := (sorted ok).symm

namespace Sample

theorem isLoadable_listing : (listing [2, 1]).IsLoadable carried fun _ => True where
  valid := by
    refine ⟨fun script there => ?_, fun other member => ?_, fun other member => nomatch member⟩
    · cases there
      exact ⟨deposit, deposit.ofScript_toScript⟩
    · obtain ⟨n, -, rfl⟩ := List.mem_map.mp member
      exact ⟨commit n, (commit n).ofScript_toScript, fun _ known => nomatch known⟩
  answered _ _ := trivial
  distinct := by decide +kernel
  positive := by decide +kernel
  covered tx there _ := by
    cases there
    exact ⟨trivial, by decide +kernel⟩

end Sample

/-- Two commits that are listed in descending order. -/
theorem snapshots_load_in_any_order_descending :
    let before := run Sample.onlineOracle {} Sample.history
    let loading := serve Sample.onlineOracle {} (.load (Sample.listing [2, 1])) ⟨before, true⟩
    let again := serve Sample.onlineOracle {} (.load (Sample.listing [1, 2])) ⟨{}, true⟩
    Sample.onlineOracle.IsFixed Sample.carried (fun _ => True) true ∧
    loading.1 = .ok () ∧ again.1 = .ok () ∧ again.2.state = loading.2.state ∧
    Sorts Sample.carried (Sample.listing [2, 1]).active loading.2.state.active := by
  intro before loading again
  obtain ⟨accepted, sorted, -, permuted⟩ := snapshots_load_in_any_order Sample.onlineOracle {}
    Sample.carried (fun _ => True) true Sample.onlineOracle_isFixed (Sample.listing [2, 1]) before
  have ok : loading.1 = .ok () := accepted.mpr Sample.isLoadable_listing
  obtain ⟨active, sorts, ended⟩ := sorted ok
  obtain ⟨both, same⟩ := permuted (Sample.listing [1, 2]).active (.swap ..) true
    Sample.onlineOracle_isFixed {}
  refine ⟨Sample.onlineOracle_isFixed, ok, both.mpr ok, same ok, ?_⟩
  rw [ended]
  exact sorts

end Channel
end PaymentChannel
