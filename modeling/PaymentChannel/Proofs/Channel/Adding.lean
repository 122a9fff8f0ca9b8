import PaymentChannel.Proofs.Channel.Proposal
import PaymentChannel.Proofs.Channel.Sorting

/-! Adding a commit, from what is asked of it to the state that is left. The script, the revoke hash
and the quantity decide alone whether it is added; it then stands behind the commits that are there,
which are put in order, and the first request for it is met. -/
namespace PaymentChannel.Channel

variable {σ : Type} {oracle : Oracle σ} {quantity : Transaction → UInt64}
  {answers : Transaction → Prop} {chain : σ}

/-- The first secret of a hash is left out, and nothing where there is none. -/
inductive LeavesOut (hash : Hash160) : List Secret → List Secret → Prop
  | none {secrets : List Secret} (absent : ∀ secret ∈ secrets, secret.hash ≠ hash) :
    LeavesOut hash secrets secrets
  | first {front back : List Secret} {secret : Secret}
      (earlier : ∀ other ∈ front, other.hash ≠ hash) (named : secret.hash = hash) :
    LeavesOut hash (front ++ secret :: back) (front ++ back)

theorem leavesOut_eraseP (hash : Hash160) (secrets : List Secret) :
    LeavesOut hash secrets (secrets.eraseP (·.hash == hash)) := by
  by_cases there : ∃ secret ∈ secrets, secret.hash = hash
  · obtain ⟨secret, member, named⟩ := there
    obtain ⟨first, front, back, earlier, same, split, erased⟩ :=
      List.exists_of_eraseP (p := (·.hash == hash)) member (beq_iff_eq.mpr named)
    rw [erased, split]
    exact .first (fun other inside => by simpa using earlier other inside) (beq_iff_eq.mp same)
  · have absent : ∀ secret ∈ secrets, secret.hash ≠ hash := fun secret member named =>
      there ⟨secret, member, named⟩
    rw [List.eraseP_of_forall_not fun secret member => by simpa using absent secret member]
    exact .none absent

namespace State

/-- What is asked of a commit of these terms: the keys and the spend hash of the deposit, a revoke
hash that no other commit has, and a quantity that can be transferred. -/
structure Accepts (quantity : Transaction → UInt64) (answers : Transaction → Prop) (state : State)
    (tx : Transaction) (terms : CommitTerms) : Prop where
  deposited : ∃ deposit : DepositTerms, state.depositScript = some deposit.toScript ∧
    terms.payer = deposit.payer ∧ terms.payee = deposit.payee ∧
    terms.spendHash = deposit.spendHash
  fresh : ∀ commit ∈ state.active ++ state.revoked, ∀ other,
    CommitTerms.ofScript commit.script = .ok other → other.revokeHash ≠ terms.revokeHash
  answered : answers tx
  transferable : state.CanTransfer quantity answers (quantity tx)

end State

namespace Action

variable {state : State} {tx : Transaction} {script : Script}

theorem accepts_of_addCommit (valid : state.IsValid) (fixed : oracle.IsFixed quantity answers chain)
    {after : Session σ} (ok : addCommit oracle tx script ⟨state, chain⟩ = (.ok (), after)) :
    ∃ terms, CommitTerms.ofScript script = .ok terms ∧ state.Accepts quantity answers tx terms ∧
      after.state = { state with
        requested := state.requested.eraseP (·.hash == terms.revokeHash)
        active := (state.sorted quantity).active ++ [{ transaction := tx, script }] } := by
  obtain ⟨terms, read, deposit, funded, keys, spendHash, unused, n, later, asked, middle, valid', rfl⟩ :=
    addCommit_eq_ok.mp ok
  obtain ⟨answered, rfl⟩ := fixed.quantity_eq_ok asked
  obtain ⟨can, sorted⟩ :=
    (validateTransfer_eq_ok_of_fixed (fixed.next_of asked)).1 middle valid'
  refine ⟨terms, read, ⟨?_, ?_, answered, can⟩, ?_⟩
  · exact ⟨deposit, State.depositTerms_eq_ok.mp funded, keys.1, keys.2, spendHash⟩
  · exact (State.usesRevokeHash_eq_false_iff valid).mp unused
  · rw [sorted]
    rfl

theorem addCommit_of_accepts (valid : state.IsValid) (fixed : oracle.IsFixed quantity answers chain)
    {terms : CommitTerms} (read : CommitTerms.ofScript script = .ok terms)
    (accepts : state.Accepts quantity answers tx terms) :
    ∃ after, addCommit oracle tx script ⟨state, chain⟩ = (.ok (), after) := by
  obtain ⟨deposit, there, payer, payee, spendHash⟩ := accepts.deposited
  obtain ⟨later, asked, fixed⟩ := fixed.exists_quantity accepts.answered
  obtain ⟨middle, valid'⟩ := (validateTransfer_eq_ok_of_fixed fixed).2 accepts.transferable
  have unused := (State.usesRevokeHash_eq_false_iff valid).mpr accepts.fresh
  exact ⟨_, addCommit_eq_ok.mpr ⟨terms, read, deposit, State.depositTerms_eq_ok.mpr there,
    ⟨payer, payee⟩, spendHash, unused, quantity tx, later, asked, middle, valid', rfl⟩⟩

end Action

/-- After every run, while nothing happens to the oracle: a commit is added exactly where its script
is one of the terms of the deposit with a new revoke hash, and its quantity is above that of each
active commit, above zero and within the deposit, the oracle answering for all of them. The active
commits are then in ascending order with the new one behind them, the first request of its hash is
met, and nothing else has changed. -/
theorem acceptable_commits_are_added (oracle : Oracle σ) (config : Config) (events : List (Event σ))
    (quantity : Transaction → UInt64) (answers : Transaction → Prop) (chain : σ)
    (fixed : oracle.IsFixed quantity answers chain) (tx : Transaction) (script : Script) :
    let before := run oracle config events
    let added := serve oracle config (.addCommit tx script) ⟨before, chain⟩
    (added.1 = .ok () ↔ ∃ terms, CommitTerms.ofScript script = .ok terms ∧
      before.Accepts quantity answers tx terms) ∧
    ∀ terms, CommitTerms.ofScript script = .ok terms → added.1 = .ok () →
      ∃ sorted requested, Sorts quantity before.active sorted ∧
        LeavesOut terms.revokeHash before.requested requested ∧
        added.2.state = { before with
          requested
          active := sorted ++ [{ transaction := tx, script }] } := by
  intro before added
  have valid : before.IsValid := run_isValid oracle config events
  constructor
  · constructor
    · intro ok
      obtain ⟨terms, read, accepts, -⟩ := Action.accepts_of_addCommit valid fixed (Prod.ext ok rfl)
      exact ⟨terms, read, accepts⟩
    · rintro ⟨terms, read, accepts⟩
      exact result_eq_ok.mpr (Action.addCommit_of_accepts valid fixed read accepts)
  · intro terms read ok
    obtain ⟨found, again, -, ended⟩ := Action.accepts_of_addCommit valid fixed (Prod.ext ok rfl)
    cases again.symm.trans read
    exact ⟨_, _, State.sorts_sorted quantity before, leavesOut_eraseP _ _, ended⟩

namespace Sample

/-- One commit is active, and two more are asked for. -/
def awaiting : List (Event Bool) :=
  firstCommit ++ [⟨.requestCommit (revokeSecret 7), false⟩, ⟨.requestCommit (revokeSecret 2), false⟩]

end Sample

theorem acceptable_commits_are_added_requested :
    let before := run Sample.onlineOracle {} Sample.awaiting
    let script := (Sample.commit 2).toScript
    let added := serve Sample.onlineOracle {} (.addCommit (.placeholder 2 20) script) ⟨before, true⟩
    Sample.onlineOracle.IsFixed Sample.carried (fun _ => True) true ∧ added.1 = .ok () ∧
    before.Accepts Sample.carried (fun _ => True) (.placeholder 2 20) (Sample.commit 2) ∧
    ∃ sorted requested, Sorts Sample.carried before.active sorted ∧
      LeavesOut (Sample.commit 2).revokeHash before.requested requested ∧
      added.2.state = { before with
        requested
        active := sorted ++ [{ transaction := .placeholder 2 20, script }] } := by
  intro before script added
  have found : added.1.toOption = some () := by decide +kernel
  have ok : added.1 = .ok () := Outcome.toOption_eq_some.mp found
  have read : CommitTerms.ofScript script = .ok (Sample.commit 2) :=
    (Sample.commit 2).ofScript_toScript
  obtain ⟨accepted, ended⟩ := acceptable_commits_are_added Sample.onlineOracle {} Sample.awaiting
    Sample.carried (fun _ => True) true Sample.onlineOracle_isFixed (.placeholder 2 20) script
  obtain ⟨terms, again, accepts⟩ := accepted.mp ok
  cases again.symm.trans read
  exact ⟨Sample.onlineOracle_isFixed, ok, accepts, ended _ read ok⟩

end PaymentChannel.Channel
