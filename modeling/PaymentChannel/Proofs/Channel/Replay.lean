import PaymentChannel.Proofs.Channel.Answers
import PaymentChannel.Proofs.Channel.Bookkeeping
import PaymentChannel.Proofs.Channel.Failure

/-! Revoking once more with a secret that has revoked a commit. A commit is only added with a hash that
no other names, so that the secret took out the only active commit of its hash and finds none again.
Loading does not compare the hashes of what it loads; commits that were loaded with one hash are
revoked by its secret one after another. -/
namespace PaymentChannel.Channel

variable {σ : Type} {oracle : Oracle σ}

namespace State

/-- Whatever a snapshot is loaded as, its active commits name different revoke hashes. -/
def AllowsLoad (oracle : Oracle σ) (_ : State) : Request → Prop
  | .load snapshot => ∀ quantities loaded, Loaded oracle snapshot quantities loaded →
    loaded.HashesDiffer
  | _ => True

variable {before after : State}

namespace HashesDiffer

theorem of_added {tx : Transaction} {script : Script} (distinct : before.HashesDiffer)
    (added : Added oracle tx script before after) : after.HashesDiffer := by
  cases added with
  | @intro terms _ _ middle _ _ _ read _ _ _ _ unused ordered =>
    have named : Commit.revokeHash { transaction := tx, script } = .ok terms.revokeHash :=
      Commit.revokeHash_of_ofScript read
    have sorted : middle.HashesDiffer := distinct.of_perm ordered.perm
    have fresh : .ok terms.revokeHash ∉ middle.active.map Commit.revokeHash := by
      intro member
      obtain ⟨commit, inside, same⟩ := List.mem_map.mp member
      have there : commit ∈ before.active ++ before.revoked :=
        List.mem_append_left _ (ordered.perm.subset inside)
      exact (Commit.anyWithHash_eq_false unused commit there).revokeHash_ne same
    rw [HashesDiffer, List.map_append, List.map_singleton, named]
    exact (List.perm_append_singleton _ _).nodup_iff.mpr (List.nodup_cons.mpr ⟨fresh, sorted⟩)

theorem of_effect {request : Request} {ok : Bool} (allowed : before.AllowsLoad oracle request)
    (effect : Effect oracle request ok before after) (distinct : before.HashesDiffer) :
    after.HashesDiffer := by
  cases effect.on_commits with
  | kept active => exact distinct.of_perm (active ▸ .refl _)
  | ordered order => exact distinct.of_perm order.perm
  | loaded load => exact allowed _ _ load
  | cleared => exact empty
  | added add => exact distinct.of_added add
  | moved moves => exact distinct.of_moves moves

end HashesDiffer

/-- A secret revokes the first of the active commits if that is one of its hash. -/
theorem revoke_head {state : State} {secret : Secret} {commit : Commit} {rest : List Commit}
    (active : state.active = commit :: rest) (named : commit.revokeHash = .ok secret.hash) :
    state.revoke secret = .ok (some (commit.revokedBy secret), { state with
      active := rest
      revoked := state.revoked ++ [commit.revokedBy secret] }) := by
  have taken (hash : Hash160) (named : commit.revokeHash = .ok hash) :
      Commit.takeOut hash state.active = .ok (some (commit, rest)) := by
    rw [active, Commit.takeOut_cons, named]
    exact if_pos rfl
  rw [revoke, taken secret.hash named]
  rfl

/-- A secret whose hash no active commit names revokes nothing. -/
theorem revoke_eq_none {state : State} {secret : Secret} (valid : state.IsValid)
    (absent : ∀ commit ∈ state.active, commit.revokeHash ≠ .ok secret.hash) :
    state.revoke secret = .ok (none, state) := by
  obtain ⟨⟨found, after⟩, ok⟩ := revoke_isOk valid secret
  rcases revoke_eq_ok ok with ⟨rfl, rfl, -⟩ | ⟨_, -, moved⟩
  · exact ok
  · cases moved with
    | @intro left right commit split named =>
      exact (absent commit (split ▸ by simp) named).elim

theorem revoke_again {secret : Secret} {commit : Commit} (valid : before.IsValid)
    (distinct : before.HashesDiffer) (moved : Moved secret before commit after) :
    after.revoke secret = .ok (none, after) :=
  revoke_eq_none (valid.of_moved moved) fun other member =>
    ((moved.mem_active distinct other).mp member).2

end State

/-- Commits that share a hash are revoked by its secret one after another. -/
theorem Action.revoke_sharing {state : State} {secret : Secret} {first second : Commit}
    {rest : List Commit} (active : state.active = first :: second :: rest)
    (named : first.revokeHash = .ok secret.hash) (same : second.revokeHash = .ok secret.hash)
    (chain later : σ) :
    let revoked := revoke secret ⟨state, chain⟩
    let again := revoke secret ⟨revoked.2.state, later⟩
    revoked.1 = .ok (some (first.revokedBy secret)) ∧
      again.1 = .ok (some (second.revokedBy secret)) := by
  intro revoked again
  have once : revoked = _ := revoke_eq (State.revoke_head active named) chain
  have left : revoked.2.state.active = second :: rest := by rw [once]
  have twice : again = _ := revoke_eq (State.revoke_head left same) later
  rw [once, twice]
  exact ⟨rfl, rfl⟩

/-- After every run in which what is loaded has active commits of different revoke hashes, a secret
that revokes a commit revokes nothing when it comes again, and leaves the channel as it is. -/
theorem revocation_is_final (oracle : Oracle σ) (config : Config) (events : List (Event σ))
    (heeds : Heeds oracle config (State.AllowsLoad oracle) {} events) (secret : Secret)
    (commit : Commit) (chain : σ) :
    let revoked := serve oracle config (.revoke secret) ⟨run oracle config events, chain⟩
    revoked.1 = .ok (some commit) → ∀ later : σ,
      let again := serve oracle config (.revoke secret) ⟨revoked.2.state, later⟩
      again.1 = .ok none ∧ again.2.state = revoked.2.state := by
  intro revoked ok later again
  have distinct : (run oracle config events).HashesDiffer :=
    run_induction_of_heeds oracle config _ .empty
      (fun _ _ _ _ allowed effect distinct => distinct.of_effect allowed effect) heeds
  have taken := (Action.revoke_ends (run oracle config events) secret).of_ok ok
  rcases State.revoke_eq_ok taken with ⟨impossible, -⟩ | ⟨_, -, moved⟩
  · cases impossible
  · have missed := State.revoke_again (run_isValid oracle config events) distinct moved
    have ends : again = (.ok none, ⟨revoked.2.state, later⟩) := Action.revoke_eq missed later
    rw [ends]
    exact ⟨rfl, rfl⟩

namespace Sample

/-- A commit that carries ten times its number; all of them have the revoke hash of the first. -/
def sharing (n : UInt8) : Commit :=
  { transaction := .placeholder n.toUInt32 (10 * n.toUInt64), script := (commit 1).toScript }

/-- A funded channel with these active commits, stored. -/
def holding (commits : List Commit) : Snapshot := .ofState
  { depositScript := some deposit.toScript
    depositTransaction := some (.placeholder 0 100)
    active := commits }

/-- The first commit is revoked, and active again after loading. -/
def rollback : List (Event Bool) :=
  firstCommit ++ [⟨.revoke (revokeSecret 1), true⟩, ⟨.load (holding [sharing 1]), true⟩]

theorem heeds_rollback : Heeds onlineOracle {} (State.AllowsLoad onlineOracle) {} rollback := by
  refine ⟨trivial, trivial, trivial, fun quantities loaded load => ?_, trivial⟩
  have single : (holding [sharing 1]).toState.HashesDiffer := List.nodup_singleton _
  exact single.of_perm load.ordered.perm

theorem ofScript_sharing (n : UInt8) : CommitTerms.ofScript (sharing n).script = .ok (commit 1) :=
  (commit 1).ofScript_toScript

theorem isValid_holding (numbers : List UInt8) :
    (holding (numbers.map sharing)).toState.IsValid := by
  refine ⟨fun script there => ?_, fun other member => ?_, fun other member => nomatch member⟩
  · cases there
    exact ⟨deposit, deposit.ofScript_toScript⟩
  · obtain ⟨n, -, rfl⟩ := List.mem_map.mp member
    exact ⟨commit 1, ofScript_sharing n, fun _ known => nomatch known⟩

theorem run_load_holding (numbers : List UInt8)
    (ascending : (holding (numbers.map sharing)).toState.IsAscending carried)
    (funded : (holding (numbers.map sharing)).toState.IsFunded carried)
    (answers : onlineOracle.AnswersInTurn ((holding (numbers.map sharing)).toState.carriers ++
      (holding (numbers.map sharing)).depositTransaction.toList) true) :
    run onlineOracle {} [⟨.load (holding (numbers.map sharing)), true⟩] =
      (holding (numbers.map sharing)).toState := by
  obtain ⟨later, loads⟩ := Action.load_eq onlineOracle_isSteady (isValid_holding numbers) ascending
    funded {} answers
  change (Action.load onlineOracle (holding (numbers.map sharing)) ⟨{}, true⟩).2.state = _
  rw [loads]

end Sample

theorem revocation_is_final_after_rollback :
    let secret := Sample.revokeSecret 1
    let state := run Sample.onlineOracle {} Sample.rollback
    let revoked := serve Sample.onlineOracle {} (.revoke secret) ⟨state, true⟩
    let again := serve Sample.onlineOracle {} (.revoke secret) ⟨revoked.2.state, true⟩
    (∃ commit, revoked.1 = .ok (some commit)) ∧ again.1 = .ok none ∧
      again.2.state = revoked.2.state := by
  intro secret state revoked again
  have found : revoked.1.toOption.join.isSome := by decide +kernel
  obtain ⟨commit, joined⟩ := Option.isSome_iff_exists.mp found
  have ok := Outcome.toOption_eq_some.mp (Option.join_eq_some_iff.mp joined)
  exact ⟨⟨commit, ok⟩, revocation_is_final Sample.onlineOracle {} Sample.rollback
    Sample.heeds_rollback secret commit true ok true⟩

/-- Two commits of one hash are loaded, and the secret of that hash revokes one of them each
time. -/
theorem shared_hash_is_revoked_twice :
    let secret := Sample.revokeSecret 1
    let twins := Sample.holding ([1, 2].map Sample.sharing)
    let state := run Sample.onlineOracle {} [⟨.load twins, true⟩]
    let revoked := serve Sample.onlineOracle {} (.revoke secret) ⟨state, true⟩
    let again := serve Sample.onlineOracle {} (.revoke secret) ⟨revoked.2.state, true⟩
    revoked.1 = .ok (some ((Sample.sharing 1).revokedBy secret)) ∧
      again.1 = .ok (some ((Sample.sharing 2).revokedBy secret)) := by
  intro secret twins state revoked again
  have within : ∀ commit ∈ twins.active, Sample.carried commit.transaction ≤
      Sample.carried (.placeholder 0 100) := by decide +kernel
  have quantities : twins.toState.quantities Sample.carried = [10, 20] := by decide +kernel
  have ascending : twins.toState.IsAscending Sample.carried := by
    constructor
    · rw [quantities]
      simp
    · rw [quantities]
      simp
  have loaded : state = twins.toState := Sample.run_load_holding [1, 2] ascending
    (fun commit member => ⟨.placeholder 0 100, rfl, within commit member⟩) (by decide +kernel)
  have named (n : UInt8) : (Sample.sharing n).revokeHash = .ok secret.hash :=
    Commit.revokeHash_of_ofScript (Sample.ofScript_sharing n)
  have active : state.active = [Sample.sharing 1, Sample.sharing 2] := by
    rw [loaded]
    rfl
  exact Action.revoke_sharing active (named 1) (named 2) true true

end PaymentChannel.Channel
