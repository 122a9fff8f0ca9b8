import PaymentChannel.Proofs.Channel.Bookkeeping
import PaymentChannel.Proofs.Channel.Failure
import PaymentChannel.Proofs.Spend.Disclosure

/-! Claiming the output of a revoked commit. Whatever revokes a commit takes its secret along, so that
the payer can sign for every commit that was revoked here. Loading checks a secret that comes with a
revoked commit and does not ask for one; a commit that is loaded as revoked without its secret can
never be claimed. -/
namespace PaymentChannel.Channel

variable {σ : Type} {oracle : Oracle σ} {before after : State}

namespace State

/-- Every revoked commit that is loaded comes with a secret. -/
def AllowsRevoked (_ : State) : Request → Prop
  | .load snapshot => ∀ commit ∈ snapshot.revoked, commit.revokeSecret.isSome
  | _ => True

/-- The secret of every revoked commit is known. -/
def SecretsKnown (state : State) : Prop := ∀ commit ∈ state.revoked, commit.revokeSecret.isSome

namespace SecretsKnown

theorem empty : SecretsKnown {} := fun _ member => nomatch member

theorem of_revoked (known : before.SecretsKnown) (same : after.revoked = before.revoked) :
    after.SecretsKnown := fun commit member => known commit (same ▸ member)

theorem of_moves (known : before.SecretsKnown) (moves : Moves before after) :
    after.SecretsKnown := by
  induction moves with
  | refl => exact known
  | tail _ moved ih =>
    obtain ⟨secret, commit, moved⟩ := moved
    cases moved with
    | intro =>
      intro other member
      rcases List.mem_append.mp member with earlier | last
      · exact ih other earlier
      · cases List.mem_singleton.mp last
        rfl

theorem of_added {tx : Transaction} {script : Script} (known : before.SecretsKnown)
    (added : Added oracle tx script before after) : after.SecretsKnown := by
  cases added with
  | intro _ _ _ _ _ _ ordered => exact known.of_revoked ordered.revoked_eq

theorem of_effect {request : Request} {ok : Bool} (allowed : before.AllowsRevoked request)
    (effect : Effect oracle request ok before after) (known : before.SecretsKnown) :
    after.SecretsKnown := by
  cases effect.on_commits with
  | kept _ revoked => exact known.of_revoked revoked
  | ordered order => exact known.of_revoked order.revoked_eq
  | @loaded snapshot _ _ _ load =>
    have stored : snapshot.toState.SecretsKnown := allowed
    exact stored.of_revoked load.ordered.revoked_eq
  | cleared => exact empty
  | added add => exact known.of_added add
  | moved moves => exact known.of_moves moves

end SecretsKnown

open Witness

/-- The payer's own key is tried first, so it is the one that signs. -/
theorem keyFor?_payer {state : State} {key : SecretKey} (held : state.payerKey = some key)
    (message : Message) : (state.signingInput message).keyFor? key.publicKey = some key := by
  rw [SigningInput.keyFor?, signingInput, keys, held]
  exact List.find?_cons_of_pos (by simp)

theorem signRevoke_eq_ok_iff {state : State} {key : SecretKey} {commit : Commit}
    {terms : CommitTerms} {secret : Secret} {message : Message} {witness : Script}
    (held : state.payerKey = some key) (read : CommitTerms.ofScript commit.script = .ok terms)
    (payer : terms.payer = key.publicKey) (known : commit.revokeSecret = some secret) :
    state.signRevoke message commit = .ok witness ↔
      secret.bytes.length < 0x100000000 ∧ witness = Script.ofWords
        [.push ((Signature.sign key message.sighash).toScriptBytes message.sighashType),
          .push secret.bytes, zero] := by
  have signs : state.signRevoke message commit =
      terms.solve (state.signingInput message) (.revoke secret) := by
    rw [signRevoke, known]
    simp only [signCommit, read]
    rfl
  rw [signs, CommitTerms.solve_revoke_eq_ok_iff, payer, Discloses, keyFor?_payer held]
  constructor
  · rintro ⟨_, same, short, made⟩
    cases same
    exact ⟨short, made⟩
  · rintro ⟨short, made⟩
    exact ⟨key, rfl, short, made⟩

end State

/-- After every run in which revoked commits are loaded with their secrets, the channel knows for each
revoked commit the secret that its script names. Where the commit is one of the channel's own payer,
it signs a witness with this secret for every sighash, provided only that the secret can be
pushed. -/
theorem revoked_commits_are_punishable (oracle : Oracle σ) (config : Config)
    (events : List (Event σ)) (heeds : Heeds oracle config State.AllowsRevoked {} events)
    (key : SecretKey) :
    let state := run oracle config events
    state.payerKey = some key → ∀ chain : σ,
      (serve oracle config .revokedCommits ⟨state, chain⟩).1 = .ok state.revoked ∧
      ∀ commit ∈ state.revoked, ∃ (terms : CommitTerms) (secret : Secret),
        commit.script = terms.toScript ∧ commit.revokeSecret = some secret ∧
        secret.hash = terms.revokeHash ∧
        (terms.payer = key.publicKey → ∀ (message : State.Message) (witness : Script),
          (serve oracle config (.signRevoke commit message) ⟨state, chain⟩).1 = .ok witness ↔
            secret.bytes.length < 0x100000000 ∧ witness = Script.ofWords
              [.push ((Signature.sign key message.sighash).toScriptBytes message.sighashType),
                .push secret.bytes, Witness.zero]) := by
  intro state held chain
  have known : state.SecretsKnown := run_induction_of_heeds oracle config _ .empty
    (fun _ _ _ _ allowed effect known => known.of_effect allowed effect) heeds
  refine ⟨rfl, fun commit member => ?_⟩
  obtain ⟨terms, read, named⟩ := (run_isValid oracle config events).revoked commit member
  obtain ⟨secret, there⟩ := Option.isSome_iff_exists.mp (known commit member)
  refine ⟨terms, secret, CommitTerms.ofScript_eq_ok_iff.mp read, there, named secret there, ?_⟩
  intro payer message witness
  exact State.signRevoke_eq_ok_iff held read payer there

namespace Sample

def holder : SecretKey := (SecretKey.ofScalar? 6).get (by decide +kernel)

/-- The terms of a commit by the holder. -/
def held : CommitTerms := { commit 1 with payer := holder.publicKey }

theorem payer_held : held.payer = holder.publicKey := by rw [held]

/-- The commit is active in a snapshot with the payer's key, and revoked once that is loaded. -/
def revokeLoaded : List (Event Bool) :=
  [⟨.load (.ofState
      { payerKey := some holder
        active := [{ transaction := .placeholder 1 10, script := held.toScript }] }), true⟩,
    ⟨.revoke (revokeSecret 1), true⟩]

/-- The commit is revoked in a snapshot, and its secret is not there. -/
def bareRevoked : Snapshot := .ofState
  { payerKey := some holder
    revoked := [{ transaction := .placeholder 1 10, script := held.toScript }] }

def message : State.Message := ⟨⟨List.replicate 32 4, rfl⟩, .all⟩

end Sample

theorem revoked_commits_are_punishable_once_revoked :
    let state := run Sample.onlineOracle {} Sample.revokeLoaded
    state.payerKey = some Sample.holder ∧ ∃ commit ∈ state.revoked, ∃ witness,
      (serve Sample.onlineOracle {} (.signRevoke commit Sample.message) ⟨state, true⟩).1 =
        .ok witness := by
  intro state
  have heeds : Heeds Sample.onlineOracle {} State.AllowsRevoked {} Sample.revokeLoaded :=
    ⟨fun _ member => (nomatch member), trivial, trivial⟩
  obtain ⟨keyed, entries⟩ : state.payerKey = some Sample.holder ∧
      state.revoked = [{
        transaction := .placeholder 1 10
        script := Sample.held.toScript
        revokeSecret := some (Sample.revokeSecret 1) }] := by
    decide +kernel
  obtain ⟨-, signs⟩ := revoked_commits_are_punishable Sample.onlineOracle {} Sample.revokeLoaded
    heeds Sample.holder keyed true
  have member := entries ▸ List.mem_singleton_self _
  obtain ⟨terms, secret, written, known, -, signs⟩ := signs _ member
  have payer : terms.payer = Sample.holder.publicKey := by
    have read := terms.ofScript_toScript
    rw [← written, Sample.held.ofScript_toScript] at read
    rw [← Except.ok.inj read, Sample.payer_held]
  cases known
  exact ⟨keyed, _, member, _, (signs payer Sample.message _).mpr ⟨by decide, rfl⟩⟩

/-- A commit that is loaded as revoked without its secret is one of the payer's and cannot be
claimed. -/
theorem bare_revoked_commit_is_lost :
    let state := run Sample.onlineOracle {} [⟨.load Sample.bareRevoked, true⟩]
    state.payerKey = some Sample.holder ∧ ∃ commit ∈ state.revoked,
      CommitTerms.ofScript commit.script = .ok Sample.held ∧
      Sample.held.payer = Sample.holder.publicKey ∧ ∀ message,
        (serve Sample.onlineOracle {} (.signRevoke commit message) ⟨state, true⟩).1 =
          .error (.notRevoked commit.transaction.txid) := by
  intro state
  obtain ⟨keyed, entries⟩ : state.payerKey = some Sample.holder ∧
      state.revoked =
        [{ transaction := .placeholder 1 10, script := Sample.held.toScript }] := by
    decide +kernel
  exact ⟨keyed, _, entries ▸ List.mem_singleton_self _, Sample.held.ofScript_toScript,
    Sample.payer_held, fun _ => rfl⟩

end PaymentChannel.Channel
