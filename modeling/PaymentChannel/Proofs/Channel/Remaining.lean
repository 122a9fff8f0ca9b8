import PaymentChannel.Proofs.Channel.Funding

/-! What remains of the deposit. As long as every deposit that comes to loaded commits covers them,
every active commit is within the deposit, so that the remaining quantity is there whenever the
oracle answers. -/
namespace PaymentChannel.Channel

variable {σ : Type} {oracle : Oracle σ} {quantity : Transaction → UInt64}

namespace State

variable {state : State}

/-- The greatest quantity that an active commit carries; zero where there is none. -/
def IsTransferred (quantity : Transaction → UInt64) (state : State) (n : UInt64) : Prop :=
  (∀ commit ∈ state.active, quantity commit.transaction ≤ n) ∧
    (state.active = [] ∧ n = 0 ∨ ∃ commit ∈ state.active, quantity commit.transaction = n)

theorem IsAscending.isTransferred (ascending : state.IsAscending quantity) :
    state.IsTransferred quantity (highest (state.quantities quantity)) := by
  constructor
  · intro commit member
    exact le_highest (ascending.strict.imp UInt64.le_of_lt) _ (List.mem_map.mpr ⟨commit, member, rfl⟩)
  · rcases List.eq_nil_or_concat' state.active with none | ⟨front, last, split⟩
    · exact .inl ⟨none, by simp [quantities, none, highest]⟩
    · exact .inr ⟨last, by simp [split], by simp [quantities, split]⟩

theorem IsTransferred.le_deposit {n : UInt64} {tx : Transaction}
    (transferred : state.IsTransferred quantity n) (covered : state.IsCovered quantity)
    (there : state.depositTransaction = some tx) : n ≤ quantity tx := by
  rcases transferred.2 with ⟨-, rfl⟩ | ⟨commit, member, rfl⟩
  · exact UInt64.zero_le
  · exact covered tx there commit member

end State

theorem Action.depositRemaining_covered {state : State} (steady : oracle.IsSteady quantity)
    (ascending : state.IsAscending quantity) (covered : state.IsCovered quantity) :
    (depositRemaining oracle).Ends state fun result _ =>
      match result with
      | .ok n => ∃ tx transferred, state.depositTransaction = some tx ∧
        state.IsTransferred quantity transferred ∧ transferred ≤ quantity tx ∧
        n = quantity tx - transferred
      | .error fault => fault.kind ≠ .transferQuantity := by
  have transferred := ascending.isTransferred
  refine (depositRemaining_ends state).mono ?_
  rintro result after ⟨-, ends⟩
  cases result with
  | error fault =>
    rcases ends with ⟨error, rfl⟩ | rfl | ⟨quantities, tx, total, ordered, there, answered, above⟩
    · exact Report.Kind.noConfusion
    · exact Report.Kind.noConfusion
    · cases steady tx total answered
      cases ordered.eq_of_ascending steady ascending
      rw [ordered.answers_eq steady] at above
      exact (UInt64.not_lt.mpr (transferred.le_deposit covered there) above).elim
  | ok n =>
    obtain ⟨quantities, tx, total, ordered, there, answered, -, rfl⟩ := ends
    cases steady tx total answered
    cases ordered.eq_of_ascending steady ascending
    rw [ordered.answers_eq steady]
    exact ⟨tx, _, there, transferred, transferred.le_deposit covered there, rfl⟩

/-- After every run in which a deposit that comes to loaded commits covers them, every active commit
carries more than zero and no more than the deposit. So asking for what remains is never refused for
a quantity, and its answer is the deposit less the greatest quantity of an active commit. -/
theorem active_commits_within_deposit (oracle : Oracle σ) (config : Config)
    (quantity : Transaction → UInt64) (steady : oracle.IsSteady quantity) (events : List (Event σ))
    (heeds : Heeds oracle config (State.AllowsDeposit quantity) {} events) :
    let state := run oracle config events
    (∀ tx, state.depositTransaction = some tx → ∀ commit ∈ state.active,
      0 < quantity commit.transaction ∧ quantity commit.transaction ≤ quantity tx) ∧
    ∀ chain : σ,
      let remaining := (serve oracle config .depositRemaining ⟨state, chain⟩).1
      (∀ fault, remaining = .error fault → fault.kind ≠ .transferQuantity) ∧
      ∀ n, remaining = .ok n → ∃ tx transferred, state.depositTransaction = some tx ∧
        state.IsTransferred quantity transferred ∧ transferred ≤ quantity tx ∧
        n = quantity tx - transferred := by
  have ascending := run_isAscending steady config events
  have covered := run_induction_of_heeds oracle config _ State.IsCovered.empty
    (fun _ _ _ _ allowed effect covered => covered.of_effect steady allowed effect) heeds
  refine ⟨fun tx there commit member => ?_, fun chain => ?_⟩
  · exact ⟨ascending.positive _ (List.mem_map.mpr ⟨commit, member, rfl⟩),
      covered tx there commit member⟩
  · have ends := Action.depositRemaining_covered steady ascending covered chain
    refine ⟨fun fault failed => ?_, fun n answered => ?_⟩
    · change (Action.depositRemaining oracle _).1 = _ at failed
      rw [failed] at ends
      exact ends
    · change (Action.depositRemaining oracle _).1 = _ at answered
      rw [answered] at ends
      exact ends

namespace Sample

/-- A commit that carries 10, stored without a deposit. -/
def unfunded : Snapshot :=
  .ofState { active := [{ transaction := .placeholder 1 10, script := (commit 1).toScript }] }

/-- Loads a commit, then funds it with a deposit of this quantity. -/
def fundLate (total : UInt64) : List (Event Bool) :=
  [⟨.load unfunded, true⟩, ⟨.setDeposit deposit.toScript (.placeholder 0 total), true⟩]

/-- The kind of fault for which a request is refused. -/
def refusal {α : Type} : Except Fault α → Option Report.Kind
  | .error fault => some fault.kind
  | .ok _ => none

theorem heeds_fundLate :
    Heeds onlineOracle {} (State.AllowsDeposit carried) {} (fundLate 100) := by
  have loaded : ∀ commit ∈ (Event.next onlineOracle {} {} ⟨.load unfunded, true⟩).active,
      carried commit.transaction ≤ 100 := by decide +kernel
  exact ⟨trivial, fun _ => loaded, trivial⟩

end Sample

theorem active_commits_within_deposit_funded_late :
    let state := run Sample.onlineOracle {} (Sample.fundLate 100)
    state.active.length = 1 ∧ state.depositTransaction = some (.placeholder 0 100) ∧
    ∀ commit ∈ state.active, 0 < Sample.carried commit.transaction ∧
      Sample.carried commit.transaction ≤ Sample.carried (.placeholder 0 100) := by
  obtain ⟨one, there⟩ : (run Sample.onlineOracle {} (Sample.fundLate 100)).active.length = 1 ∧
      (run Sample.onlineOracle {} (Sample.fundLate 100)).depositTransaction =
        some (.placeholder 0 100) := by
    decide +kernel
  exact ⟨one, there, (active_commits_within_deposit Sample.onlineOracle {} Sample.carried
    Sample.onlineOracle_isSteady (Sample.fundLate 100) Sample.heeds_fundLate).1 _ there⟩

/-- A deposit of 5 is taken for a loaded commit that carries 10, and what remains of it is refused. -/
theorem late_deposit_falls_short :
    let state := run Sample.onlineOracle {} (Sample.fundLate 5)
    Sample.onlineOracle.IsSteady Sample.carried ∧
    state.depositTransaction = some (.placeholder 0 5) ∧ Sample.carried (.placeholder 0 5) = 5 ∧
    state.active.map (fun commit => Sample.carried commit.transaction) = [10] ∧
    Sample.refusal (serve Sample.onlineOracle {} .depositRemaining ⟨state, true⟩).1 =
      some .transferQuantity :=
  ⟨Sample.onlineOracle_isSteady, by decide +kernel⟩

end PaymentChannel.Channel
