import PaymentChannel.Proofs.Channel.Effect

/-! What it takes for the actions that ask the oracle to succeed. Each of them succeeds exactly when
every lookup on its way is answered and no check refuses, and how it ends is told by the moments that
the lookups leave behind. -/
namespace PaymentChannel.Channel

variable {σ : Type} {oracle : Oracle σ}

theorem State.depositTotal_eq_ok {state : State} {chain later : σ} {total : UInt64} :
    depositTotal oracle state chain = (.ok total, later) ↔ ∃ tx,
      state.depositTransaction = some tx ∧ oracle.quantity tx chain = (.ok total, later) := by
  simp only [depositTotal, bind_eq_ok, lift_eq_ok, requireDepositTransaction_eq_ok, quantityOf_eq_ok]
  simp only [and_assoc, exists_and_left, exists_eq_left]

namespace Action

variable {before after : Session σ}

theorem orderActive_eq_ok {quantities : List UInt64} :
    orderActive oracle before = (.ok quantities, after) ↔
      State.order oracle before.state before.chain =
        (.ok (quantities, after.state), after.chain) := by
  rw [orderActive, bind_eq_ok]
  constructor
  · rintro ⟨answer, middle, asked, ended⟩
    obtain ⟨later, ordered, rfl⟩ := ask_eq_ok.mp asked
    cases ended
    exact ordered
  · intro ordered
    exact ⟨_, _, ask_eq ordered, rfl⟩

theorem transferredAmount_eq_ok {transferred : UInt64} :
    transferredAmount oracle before = (.ok transferred, after) ↔ ∃ quantities,
      State.order oracle before.state before.chain =
        (.ok (quantities, after.state), after.chain) ∧ highest quantities = transferred := by
  rw [transferredAmount, bind_eq_ok]
  constructor
  · rintro ⟨quantities, middle, ordered, ended⟩
    cases ended
    exact ⟨quantities, orderActive_eq_ok.mp ordered, rfl⟩
  · rintro ⟨quantities, ordered, rfl⟩
    exact ⟨quantities, after, orderActive_eq_ok.mpr ordered, rfl⟩

theorem validateTransfer_eq_ok {quantity : UInt64} {done : Unit} :
    validateTransfer oracle quantity before = (.ok done, after) ↔ ∃ quantities middle,
      State.order oracle before.state before.chain = (.ok (quantities, after.state), middle) ∧
      highest quantities < quantity ∧ ∃ tx total, after.state.depositTransaction = some tx ∧
        oracle.quantity tx middle = (.ok total, after.chain) ∧ quantity ≤ total := by
  simp only [validateTransfer, bind_eq_ok, refuse_bind_eq_ok, refuse_eq_ok, pure_eq_ok,
    transferredAmount_eq_ok, ask_eq_ok, State.depositTotal_eq_ok, UInt64.not_le, UInt64.not_lt,
    true_and]
  constructor
  · rintro ⟨_, middle, ⟨quantities, ordered, rfl⟩, above, total, _,
      ⟨later, ⟨tx, there, answered⟩, rfl⟩, within, rfl⟩
    exact ⟨quantities, middle.chain, ordered, above, tx, total, there, answered, within⟩
  · rintro ⟨quantities, middle, ordered, above, tx, total, there, answered, within⟩
    exact ⟨_, ⟨after.state, middle⟩, ⟨quantities, ordered, rfl⟩, above, total, after,
      ⟨after.chain, ⟨tx, there, answered⟩, rfl⟩, within, rfl⟩

/-- Of a commit, the script, the revoke hash and the quantity are checked; the order that checking the
quantity brings the others into stays. -/
theorem addCommit_eq_ok {tx : Transaction} {script : Script} {done : Unit} :
    addCommit oracle tx script before = (.ok done, after) ↔
      ∃ terms, CommitTerms.ofScript script = .ok terms ∧
        ∃ deposit, before.state.depositTerms = .ok deposit ∧
          (terms.payer = deposit.payer ∧ terms.payee = deposit.payee) ∧
          terms.spendHash = deposit.spendHash ∧
          before.state.usesRevokeHash terms.revokeHash = .ok false ∧
          ∃ quantity later, oracle.quantity tx before.chain = (.ok quantity, later) ∧
            ∃ middle, validateTransfer oracle quantity ⟨before.state, later⟩ = (.ok (), middle) ∧
              after = ⟨{ middle.state with
                requested := middle.state.requested.eraseP (·.hash == terms.revokeHash)
                active := middle.state.active ++ [{ transaction := tx, script }] },
                middle.chain⟩ := by
  simp only [addCommit, bind_eq_ok, lift_eq_ok, getState_eq_ok, refuse_bind_eq_ok, ask_eq_ok,
    State.quantityOf_eq_ok, setState_eq_ok]
  simp only [existsAndEq, ne_eq, not_or, not_not, Bool.not_eq_true, and_true, true_and,
    Unique.exists_iff, PUnit.default_eq_unit]

/-- The deposit is asked for only where there is one, and an active commit. -/
private theorem bounded_eq_ok {quantities : List UInt64} {state loaded : State} {done : Unit} :
    (∃ later, (match quantities.getLast?, state.depositTransaction with
      | some greatest, some _ => do
        let total ← ask fun _ => state.depositTotal oracle
        if total < greatest then throw (.loadedAboveTotal greatest total)
        setState state
      | _, _ => setState state : Action σ Unit) before = (.ok done, ⟨loaded, later⟩)) ↔
      loaded = state ∧ ∀ tx, state.depositTransaction = some tx → quantities ≠ [] →
        ∃ total later, oracle.quantity tx before.chain = (.ok total, later) ∧
          highest quantities ≤ total := by
  cases last : quantities.getLast? with
  | none =>
    have empty := List.getLast?_eq_none_iff.mp last
    simp [setState_eq_ok, empty]
  | some greatest =>
    have top : highest quantities = greatest := by
      rw [highest, last]
      rfl
    have inhabited : quantities ≠ [] := by
      rintro rfl
      cases last
    cases there : state.depositTransaction with
    | none => simp [setState_eq_ok]
    | some tx =>
      simp only [bind_eq_ok, ask_eq_ok, State.depositTotal_eq_ok, refuse_bind_eq_ok, setState_eq_ok,
        there, UInt64.not_lt, top]
      constructor
      · rintro ⟨_, total, _, ⟨later, ⟨_, same, answered⟩, rfl⟩, within, ended⟩
        cases same
        refine ⟨(Session.mk.inj ended).1, ?_⟩
        rintro _ ⟨⟩ -
        exact ⟨total, later, answered, within⟩
      · rintro ⟨rfl, within⟩
        obtain ⟨total, later, answered, atMost⟩ := within tx rfl inhabited
        exact ⟨later, total, ⟨before.state, later⟩, ⟨later, ⟨tx, rfl, answered⟩, rfl⟩, atMost, rfl⟩

/-- Of a snapshot, what it stores and the quantities of its active commits are checked; it is loaded
as these are put in order. -/
theorem load_eq_ok {snapshot : Snapshot} {loaded : State} :
    (∃ later, load oracle snapshot before = (.ok (), ⟨loaded, later⟩)) ↔
      snapshot.check = .ok () ∧ ∃ quantities middle,
        State.order oracle snapshot.toState before.chain = (.ok (quantities, loaded), middle) ∧
        firstRepeat quantities = none ∧ quantities.head? ≠ some 0 ∧
        ∀ tx, loaded.depositTransaction = some tx → quantities ≠ [] →
          ∃ total later, oracle.quantity tx middle = (.ok total, later) ∧
            highest quantities ≤ total := by
  constructor
  · rintro ⟨later, ok⟩
    rw [load, bind_eq_ok] at ok
    obtain ⟨restored, _, lifted, ok⟩ := ok
    obtain ⟨restores, rfl⟩ := lift_eq_ok.mp lifted
    obtain ⟨checked, rfl⟩ := Snapshot.restore_eq_ok.mp restores
    obtain ⟨⟨quantities, state⟩, _, asked, ok⟩ := bind_eq_ok.mp ok
    obtain ⟨middle, ordered, rfl⟩ := ask_eq_ok.mp asked
    cases distinct : firstRepeat quantities with
    | some quantity =>
      simp only [distinct] at ok
      cases ok
    | none =>
      simp only [distinct, refuse_bind_eq_ok] at ok
      obtain ⟨head, ok⟩ := ok
      obtain ⟨rfl, within⟩ := bounded_eq_ok.mp ⟨later, ok⟩
      exact ⟨checked, quantities, middle, ordered, distinct, head, within⟩
  · rintro ⟨checked, quantities, middle, ordered, distinct, head, within⟩
    have asked := @ask_eq σ _ (fun _ => State.order oracle snapshot.toState) before _ _ ordered
    rw [load, bind_eq (lift_eq (Snapshot.restore_eq_ok.mpr ⟨checked, rfl⟩) _), bind_eq asked]
    simp only [distinct, if_neg head]
    exact bounded_eq_ok.mpr ⟨rfl, within⟩

end Action
end PaymentChannel.Channel
