import PaymentChannel.Proofs.Channel.Run

/-! The order of the active commits. Under an oracle whose quantities do not change, the quantities
of the active commits are strictly ascending and above zero after every run. Sorting such commits
leaves them where they are, which is why adding at the end and taking out of the middle keep the
order without sorting. -/
namespace PaymentChannel.Channel

variable {σ : Type} {oracle : Oracle σ} {quantity : Transaction → UInt64}

namespace State

def quantities (quantity : Transaction → UInt64) (state : State) : List UInt64 :=
  state.active.map fun commit => quantity commit.transaction

structure IsAscending (quantity : Transaction → UInt64) (state : State) : Prop where
  strict : (state.quantities quantity).Pairwise (· < ·)
  positive : ∀ n ∈ state.quantities quantity, 0 < n

end State

@[simp] theorem highest_concat (front : List UInt64) (last : UInt64) :
    highest (front ++ [last]) = last := by
  simp [highest]

theorem le_highest {quantities : List UInt64} (ascending : quantities.Pairwise (· ≤ ·)) :
    ∀ n ∈ quantities, n ≤ highest quantities := by
  rcases List.eq_nil_or_concat' quantities with rfl | ⟨front, last, rfl⟩
  · simp
  · intro n member
    rw [highest_concat]
    rcases List.mem_append.mp member with inside | same
    · exact (List.pairwise_append.mp ascending).2.2 n inside last (by simp)
    · exact (List.mem_singleton.mp same) ▸ UInt64.le_refl _

theorem highest_mem {quantities : List UInt64} (inhabited : quantities ≠ []) :
    highest quantities ∈ quantities := by
  rw [highest, List.getLast?_eq_some_getLast inhabited]
  exact List.getLast_mem inhabited

theorem pairwise_lt_iff_nodup {quantities : List UInt64} (ascending : quantities.Pairwise (· ≤ ·)) :
    quantities.Pairwise (· < ·) ↔ quantities.Nodup :=
  ⟨fun strict => strict.imp UInt64.ne_of_lt, fun distinct =>
    (ascending.and distinct).imp fun both => UInt64.lt_of_le_of_ne both.1 both.2⟩

namespace Ordered

variable {before after : State} {answers : List UInt64}

theorem answers_eq (steady : oracle.IsSteady quantity)
    (ordered : Ordered oracle before answers after) : answers = after.quantities quantity := by
  have known : List.Forall₂ (fun commit n => n = quantity commit.transaction) after.active answers :=
    ordered.answered.imp fun commit n answered => steady commit.transaction n answered
  clear ordered
  rw [State.quantities]
  generalize after.active = commits at known ⊢
  induction known with
  | nil => rfl
  | cons same _ ih => rw [List.map_cons, ← ih, same]

theorem eq_of_ascending (steady : oracle.IsSteady quantity)
    (ascending : before.IsAscending quantity) (ordered : Ordered oracle before answers after) :
    after = before := by
  have distinct : (after.quantities quantity).Nodup :=
    ((ordered.perm.map _).nodup_iff).mpr (ascending.strict.imp UInt64.ne_of_lt)
  have sorted := ordered.ascending
  rw [ordered.answers_eq steady] at sorted
  have strict : (after.quantities quantity).Pairwise (· < ·) :=
    (pairwise_lt_iff_nodup sorted).mpr distinct
  have commits (state : State) (strict : (state.quantities quantity).Pairwise (· < ·)) :
      state.active.Pairwise fun a b => quantity a.transaction < quantity b.transaction :=
    List.pairwise_map.mp strict
  -- both orders are strict, and a list has only one strict order
  have same : after.active = before.active :=
    List.Perm.eq_of_pairwise (fun _ _ _ _ less more => (UInt64.lt_asymm less more).elim)
      (commits after strict) (commits before ascending.strict) ordered.perm
  rw [ordered.frame, same]

end Ordered

namespace State.IsAscending

variable {before after : State}

theorem empty : IsAscending quantity {} := ⟨.nil, by simp [quantities]⟩

theorem of_sublist (ascending : before.IsAscending quantity)
    (fewer : after.active.Sublist before.active) : after.IsAscending quantity := by
  have kept : (after.quantities quantity).Sublist (before.quantities quantity) := fewer.map _
  exact ⟨ascending.strict.sublist kept, fun n member => ascending.positive n (kept.subset member)⟩

theorem of_active (ascending : before.IsAscending quantity) (same : after.active = before.active) :
    after.IsAscending quantity :=
  ascending.of_sublist (same ▸ .refl _)

theorem of_moves (ascending : before.IsAscending quantity) (moves : Moves before after) :
    after.IsAscending quantity :=
  ascending.of_sublist moves.active_sublist

theorem of_added {tx : Transaction} {script : Script} (steady : oracle.IsSteady quantity)
    (ascending : before.IsAscending quantity) (added : Added oracle tx script before after) :
    after.IsAscending quantity := by
  cases added with
  | @intro _ _ answers middle n _ _ _ _ _ _ _ _ ordered carried above _ _ _ =>
    cases ordered.eq_of_ascending steady ascending
    cases steady tx n carried
    have same := ordered.answers_eq steady
    subst same
    have below := le_highest ordered.ascending
    refine ⟨?_, ?_⟩
    · rw [quantities, List.map_append, List.pairwise_append]
      refine ⟨ascending.strict, by simp, fun n member last inside => ?_⟩
      rw [List.mem_singleton.mp inside]
      exact UInt64.lt_of_le_of_lt (below n member) above
    · intro n member
      rw [quantities, List.map_append, List.mem_append] at member
      rcases member with earlier | last
      · exact ascending.positive n earlier
      · rw [List.mem_singleton.mp last]
        exact UInt64.lt_of_le_of_lt UInt64.zero_le above

theorem of_loaded {snapshot : Snapshot} {answers : List UInt64} (steady : oracle.IsSteady quantity)
    (loaded : Loaded oracle snapshot answers after) : after.IsAscending quantity := by
  have same := loaded.ordered.answers_eq steady
  exact ⟨same ▸ loaded.distinct, same ▸ loaded.positive⟩

theorem of_effect {request : Request} {ok : Bool} (steady : oracle.IsSteady quantity)
    (effect : Effect oracle request ok before after) (ascending : before.IsAscending quantity) :
    after.IsAscending quantity := by
  cases effect.on_commits with
  | kept active => exact ascending.of_active active
  | ordered order => exact order.eq_of_ascending steady ascending ▸ ascending
  | loaded load => exact of_loaded steady load
  | cleared => exact empty
  | added add => exact ascending.of_added steady add
  | moved moves => exact ascending.of_moves moves

end State.IsAscending

theorem run_isAscending (steady : oracle.IsSteady quantity) (config : Config)
    (events : List (Event σ)) : (run oracle config events).IsAscending quantity :=
  run_induction oracle config .empty
    (fun _ _ _ _ effect ascending => ascending.of_effect steady effect) events

/-- After every run, the quantities of the active commits are strictly ascending and above zero, and
the transferred amount is the quantity of the last of them. -/
theorem active_commits_ascend (oracle : Oracle σ) (config : Config)
    (quantity : Transaction → UInt64) (steady : oracle.IsSteady quantity)
    (events : List (Event σ)) :
    let state := run oracle config events
    (state.active.map fun commit => quantity commit.transaction).Pairwise (· < ·) ∧
    (∀ commit ∈ state.active, 0 < quantity commit.transaction) ∧
    ∀ (chain : σ) (n : UInt64), (serve oracle config .transferredAmount ⟨state, chain⟩).1 = .ok n →
      n = (state.active.getLast?.map fun commit => quantity commit.transaction).getD 0 := by
  have ascending := run_isAscending steady config events
  refine ⟨ascending.strict, fun commit member => ?_, fun chain n answer => ?_⟩
  · exact ascending.positive _ (List.mem_map.mpr ⟨commit, member, rfl⟩)
  · obtain ⟨answers, ordered, rfl⟩ := (Action.transferredAmount_ends _).of_ok answer
    have same := ordered.eq_of_ascending steady ascending
    rw [ordered.answers_eq steady, same, highest, State.quantities, List.getLast?_map]

theorem active_commits_ascend_sample :
    let state := run Sample.onlineOracle {} Sample.history
    Sample.onlineOracle.IsSteady Sample.carried ∧
    (state.active.map fun commit => Sample.carried commit.transaction) = [20, 30] ∧
    (state.active.map fun commit => Sample.carried commit.transaction).Pairwise (· < ·) :=
  ⟨Sample.onlineOracle_isSteady, by decide +kernel,
    (active_commits_ascend Sample.onlineOracle {} Sample.carried Sample.onlineOracle_isSteady
      Sample.history).1⟩

end PaymentChannel.Channel
