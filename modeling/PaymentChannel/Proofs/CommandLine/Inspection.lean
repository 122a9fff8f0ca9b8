import PaymentChannel.CommandLine.Command
import PaymentChannel.Proofs.Channel.Validity
import PaymentChannel.Proofs.Snapshot.Text

/-! Inspecting a stored channel shows nothing of its secrets. What is shown hangs on its scripts and
transactions, on which keys and whether a spend secret are known and on how many commits are asked
for: two channels that agree in these are shown alike, whatever their keys and secrets are. Of a
channel that can be restored something is always shown. -/
namespace PaymentChannel
namespace Channel

def Commit.published (commit : Commit) : Transaction × Script := (commit.transaction, commit.script)

/-- What a channel holds besides keys and secrets, and which of these are there. -/
structure Published where
  payerKeyKnown : Bool
  payeeKeyKnown : Bool
  spendSecretKnown : Bool
  depositScript : Option Script
  depositTransaction : Option Transaction
  timeoutTransaction : Option Transaction
  changeTransaction : Option Transaction
  requestedCount : Nat
  active : List (Transaction × Script)
  revoked : List (Transaction × Script)
deriving DecidableEq

def State.published (state : State) : Published where
  payerKeyKnown := state.payerKey.isSome
  payeeKeyKnown := state.payeeKey.isSome
  spendSecretKnown := state.spendSecret.isSome
  depositScript := state.depositScript
  depositTransaction := state.depositTransaction
  timeoutTransaction := state.timeoutTransaction
  changeTransaction := state.changeTransaction
  requestedCount := state.requested.length
  active := state.active.map (·.published)
  revoked := state.revoked.map (·.published)

theorem Role.ofKeys_congr {payer payee payer' payee' : Option SecretKey}
    (samePayer : payer.isSome = payer'.isSome) (samePayee : payee.isSome = payee'.isSome) :
    Role.ofKeys payer payee = Role.ofKeys payer' payee' := by
  cases payer <;> cases payer' <;> cases payee <;> cases payee' <;> simp_all [Role.ofKeys]

namespace CommitSummary

/-- The revoke secret of a commit does not enter its summary. -/
theorem mapM_ofCommit (commits : List Commit) :
    commits.mapM ofCommit =
      (commits.map (·.published)).mapM fun (tx, script) => ofCommit ⟨tx, script, none⟩ := by
  rw [List.mapM_map]
  rfl

theorem exists_summaries {commits : List Commit} (valid : ∀ commit ∈ commits, commit.IsValid) :
    ∃ summaries, commits.mapM ofCommit = .ok summaries := by
  induction commits with
  | nil => exact ⟨[], rfl⟩
  | cons commit rest ih =>
    obtain ⟨⟨terms, read, -⟩, others⟩ := List.forall_mem_cons.mp valid
    obtain ⟨summaries, more⟩ := ih others
    have first : ofCommit commit =
        .ok ⟨commit.transaction.txid, terms.revokeHash, terms.delayTime⟩ := by
      rw [ofCommit, read]
      rfl
    exact ⟨_ :: summaries, by rw [List.mapM_cons, first, more]; rfl⟩

end CommitSummary

namespace Summary

theorem ofState_congr {state other : State} (same : state.published = other.published) :
    ofState state = ofState other := by
  simp only [State.published, Published.mk.injEq] at same
  obtain ⟨payerKey, payeeKey, spendSecret, script, deposit, timeout, change, requested, active,
    revoked⟩ := same
  simp only [ofState, CommitSummary.mapM_ofCommit, Role.ofKeys_congr payerKey payeeKey, spendSecret,
    script, deposit, timeout, change, requested, active, revoked]

theorem exists_ofState {state : State} (valid : state.IsValid) :
    ∃ summary, ofState state = .ok summary := by
  obtain ⟨active, activeRead⟩ := CommitSummary.exists_summaries valid.active
  obtain ⟨revoked, revokedRead⟩ := CommitSummary.exists_summaries valid.revoked
  have deposit : ∃ terms, depositOf state.depositScript = .ok terms := by
    cases given : state.depositScript with
    | none => exact ⟨none, rfl⟩
    | some script =>
      obtain ⟨terms, read⟩ := valid.deposit script given
      exact ⟨some terms, by rw [depositOf, read]; rfl⟩
  obtain ⟨terms, depositRead⟩ := deposit
  exact ⟨_, by rw [ofState, depositRead, activeRead, revokedRead]; rfl⟩

end Summary
end Channel

/-- A snapshot that passes its check is restored from its own text. -/
theorem Snapshot.restored_toText {snapshot : Snapshot} (readable : snapshot.IsReadable)
    (passes : snapshot.check.isOk = true) :
    ofText snapshot.toText >>= restore = .ok snapshot.toState := by
  refine Outcome.bind_eq_ok.mpr ⟨snapshot, ofText_toText readable, ?_⟩
  cases checked : snapshot.check with
  | error fault =>
    rw [checked] at passes
    cases passes
  | ok _ => exact restore_eq_ok.mpr ⟨checked, rfl⟩

namespace Command
open Channel (State Summary)

theorem run_inspect {text : String} {state : State} {summary : Summary} (path : String)
    (restored : Snapshot.ofText text >>= Snapshot.restore = .ok state)
    (shown : Summary.ofState state = .ok summary) :
    run (some text) (.inspectSnapshot path) = .ok (.inspected summary) := by
  obtain ⟨snapshot, read, restored⟩ := Outcome.bind_eq_ok.mp restored
  have summarized : readSummary text = .ok summary :=
    Outcome.bind_eq_ok.mpr ⟨snapshot, read, Outcome.bind_eq_ok.mpr ⟨state, restored, shown⟩⟩
  simp only [run, summarized]
  rfl

/-- Two stored channels that agree in what they hold besides keys and secrets, and in which of these
are known, are shown alike: as the same document, on any network and from any file. -/
theorem inspection_shows_no_secret (text other : String) (state state' : State)
    (restored : Snapshot.ofText text >>= Snapshot.restore = .ok state)
    (restored' : Snapshot.ofText other >>= Snapshot.restore = .ok state')
    (same : state.published = state'.published) :
    ∃ json, ∀ (path : String) (network : Network),
      (run (some text) (.inspectSnapshot path)).map (·.toJson network) = .ok json ∧
      (run (some other) (.inspectSnapshot path)).map (·.toJson network) = .ok json := by
  have valid : state.IsValid := by
    obtain ⟨snapshot, -, passed⟩ := Outcome.bind_eq_ok.mp restored
    obtain ⟨checked, rfl⟩ := Snapshot.restore_eq_ok.mp passed
    exact Snapshot.check_eq_ok.mp checked
  obtain ⟨summary, shown⟩ := Summary.exists_ofState valid
  have shown' : Summary.ofState state' = .ok summary := by
    rw [← Summary.ofState_congr same, shown]
  refine ⟨summary.toJson, fun path network => ?_⟩
  rw [run_inspect path restored shown, run_inspect path restored' shown']
  exact ⟨rfl, rfl⟩

namespace Sample
open Channel.Sample Snapshot.Sample

def otherKey : SecretKey := (SecretKey.ofScalar? 9).get (by decide +kernel)

/-- The channel that is kept, with other secrets; the one revoke secret is that of the other commit. -/
def disguised : Snapshot where
  payerKey := none
  payeeKey := some otherKey
  spendSecret := some ⟨[9]⟩
  depositScript := kept.depositScript
  depositTransaction := kept.depositTransaction
  timeoutTransaction := kept.timeoutTransaction
  changeTransaction := kept.changeTransaction
  requested := [⟨[7]⟩, ⟨[8, 8]⟩]
  active := [⟨.placeholder 1 10, (commit 1).toScript, some (revokeSecret 1)⟩]
  revoked := [⟨witnessed, (commit 2).toScript, none⟩]

end Sample

theorem inspection_shows_no_secret_disguised :
    Snapshot.Sample.kept.toState ≠ Sample.disguised.toState ∧
    ∃ json, ∀ (path : String) (network : Network),
      (run (some Snapshot.Sample.kept.toText) (.inspectSnapshot path)).map (·.toJson network) =
        .ok json ∧
      (run (some Sample.disguised.toText) (.inspectSnapshot path)).map (·.toJson network) =
        .ok json := by
  have restored : Snapshot.ofText Snapshot.Sample.kept.toText >>= Snapshot.restore =
      .ok Snapshot.Sample.kept.toState :=
    Snapshot.restored_toText (by decide +kernel) (by decide +kernel)
  have restored' : Snapshot.ofText Sample.disguised.toText >>= Snapshot.restore =
      .ok Sample.disguised.toState :=
    Snapshot.restored_toText (by decide +kernel) (by decide +kernel)
  have same : Snapshot.Sample.kept.toState.published = Sample.disguised.toState.published := by
    simp [State.published, Channel.Commit.published, Snapshot.toState, Snapshot.Sample.kept,
      Sample.disguised]
  exact ⟨by simp [Snapshot.toState, Snapshot.Sample.kept, Sample.disguised],
    inspection_shows_no_secret _ _ _ _ restored restored' same⟩

end Command
end PaymentChannel
