import PaymentChannel.Proofs.Channel.Failure
import PaymentChannel.Proofs.Channel.Setup

/-! The spend secret of a channel and the hash of it that the deposit names. A deposit is only taken
if it names the hash of a secret that is there; a secret is taken whatever the deposit names, so that
the two agree for as long as no other secret is set. -/
namespace PaymentChannel.Channel

variable {σ : Type} {oracle : Oracle σ}

namespace State

/-- The deposit names the hash of the spend secret, where both are there. -/
def SecretMatches (state : State) : Prop :=
  ∀ (deposit : DepositTerms) (secret : Secret), state.depositScript = some deposit.toScript →
    state.spendSecret = some secret → secret.hash = deposit.spendHash

/-- Nothing is loaded, and a spend secret that comes to a deposit is the one that it names. -/
def AllowsSecret (state : State) : Request → Prop
  | .load _ => False
  | .setSpendSecret secret => ∀ deposit : DepositTerms,
    state.depositScript = some deposit.toScript → secret.hash = deposit.spendHash
  | _ => True

namespace SecretMatches

variable {before after : State}

theorem empty : SecretMatches {} := by
  simp [SecretMatches]

theorem of_sameSetup (matching : before.SecretMatches) (same : SameSetup before after) :
    after.SecretMatches := by
  intro deposit secret there known
  exact matching deposit secret (same.depositScript ▸ there) (same.spendSecret ▸ known)

theorem of_setDeposit {script : Script} {tx : Transaction}
    (set : before.setDeposit script tx = .ok after) : after.SecretMatches := by
  obtain ⟨terms, read, -, -, -, -, checked, rfl⟩ := setDeposit_eq_ok.mp set
  intro deposit secret there known
  cases there
  rw [deposit.ofScript_toScript] at read
  cases read
  exact checked secret known

theorem of_effect {request : Request} {ok : Bool} (allowed : before.AllowsSecret request)
    (effect : Effect oracle request ok before after) (matching : before.SecretMatches) :
    after.SecretMatches := by
  cases effect with
  | reordered _ order => exact matching.of_sameSetup order.sameSetup
  | loaded => exact allowed.elim
  | cleared => exact empty
  | payerKey set =>
    obtain ⟨rfl, -⟩ := setPayerKey_eq_ok set
    exact matching
  | payeeKey set =>
    obtain ⟨rfl, -⟩ := setPayeeKey_eq_ok set
    exact matching
  | deposit set => exact of_setDeposit set
  | timeoutTransaction | changeTransaction | requested => exact matching
  | spendSecret =>
    intro deposit secret there known
    cases known
    exact allowed deposit there
  | added add => exact matching.of_sameSetup add.sameSetup
  | revoked revoke => exact matching.of_sameSetup (moves_of_revoke revoke).sameSetup
  | revokedAll moves => exact matching.of_sameSetup moves.sameSetup

end SecretMatches

/-- Where they match, the hash is the same whether it is taken from the secret or from the deposit. -/
theorem spendHash_eq_ok {state : State} {deposit : DepositTerms} (matching : state.SecretMatches)
    (there : state.depositScript = some deposit.toScript) :
    state.spendHash = .ok deposit.spendHash := by
  rw [spendHash, there]
  cases known : state.spendSecret with
  | some secret => exact congrArg Except.ok (matching deposit secret there known)
  | none => exact deposit.spendHashAt_toScript

end State

/-- After every run without loading in which a spend secret that comes to a deposit is the one that
it names, the secret hashes to what the deposit script names wherever both are there, and asking for
the hash gives just that. -/
theorem spend_secret_matches_deposit (oracle : Oracle σ) (config : Config) (events : List (Event σ))
    (heeds : Heeds oracle config State.AllowsSecret {} events) :
    let state := run oracle config events
    ∀ script, state.depositScript = some script → ∃ deposit : DepositTerms,
      deposit.toScript = script ∧
      (∀ secret, state.spendSecret = some secret → secret.hash = deposit.spendHash) ∧
      ∀ chain : σ, (serve oracle config .spendHash ⟨state, chain⟩).1 = .ok deposit.spendHash := by
  intro state script there
  have matching : state.SecretMatches := run_induction_of_heeds oracle config _ .empty
    (fun _ _ _ _ allowed effect matching => matching.of_effect allowed effect) heeds
  obtain ⟨deposit, read⟩ := (run_isValid oracle config events).deposit script there
  cases DepositTerms.ofScript_eq_ok_iff.mp read
  refine ⟨deposit, rfl, fun secret known => matching deposit secret there known, fun chain => ?_⟩
  exact State.spendHash_eq_ok matching there

namespace Sample

/-- The secret comes to the deposit. -/
def disclose (secret : Secret) : List (Event Bool) := [⟨fund, true⟩, ⟨.setSpendSecret secret, true⟩]

theorem heeds_disclose : Heeds onlineOracle {} State.AllowsSecret {} (disclose spendSecret) := by
  have funded : (Event.next onlineOracle {} {} ⟨fund, true⟩).depositScript =
      some deposit.toScript := by decide +kernel
  refine ⟨trivial, fun terms there => ?_, trivial⟩
  rw [funded, Option.some.injEq] at there
  have read := terms.ofScript_toScript
  rw [← there, deposit.ofScript_toScript] at read
  exact congrArg DepositTerms.spendHash (Except.ok.inj read)

end Sample

theorem spend_secret_matches_deposit_disclosed :
    let state := run Sample.onlineOracle {} (Sample.disclose Sample.spendSecret)
    state.spendSecret = some Sample.spendSecret ∧
    ∃ deposit : DepositTerms, deposit.toScript = Sample.deposit.toScript ∧
      Sample.spendSecret.hash = deposit.spendHash := by
  obtain ⟨known, there⟩ :
      (run Sample.onlineOracle {} (Sample.disclose Sample.spendSecret)).spendSecret =
        some Sample.spendSecret ∧
      (run Sample.onlineOracle {} (Sample.disclose Sample.spendSecret)).depositScript =
        some Sample.deposit.toScript := by
    decide +kernel
  obtain ⟨deposit, same, matching, -⟩ := spend_secret_matches_deposit Sample.onlineOracle {}
    (Sample.disclose Sample.spendSecret) Sample.heeds_disclose _ there
  exact ⟨known, deposit, same, matching _ known⟩

/-- Another secret is taken too, and the hash that is then told is not the one that the deposit
names. -/
theorem other_secret_is_taken :
    let secret := Sample.revokeSecret 1
    let state := run Sample.onlineOracle {} (Sample.disclose secret)
    state.depositScript = some Sample.deposit.toScript ∧ state.spendSecret = some secret ∧
    (serve Sample.onlineOracle {} .spendHash ⟨state, true⟩).1 = .ok secret.hash ∧
    secret.hash ≠ Sample.deposit.spendHash := by
  intro secret state
  obtain ⟨there, known, different⟩ : state.depositScript = some Sample.deposit.toScript ∧
      state.spendSecret = some secret ∧ secret.hash ≠ Sample.deposit.spendHash := by
    decide +kernel
  have told : state.spendHash = .ok secret.hash := by rw [State.spendHash, known]
  exact ⟨there, known, told, different⟩

end PaymentChannel.Channel
