import PaymentChannel.Proofs.Spend.Handshake

/-! Witnesses that disclose a secret. Taking the change is refused for a secret that the deposit does
not name. A commit is claimed with any secret that is given: the witness is signed and discloses it,
and it is only the script of the commit that asks for another. -/
namespace PaymentChannel

namespace Witness

/-- The witness pushes a signature by `key`, the secret and the words that choose a branch. -/
def Discloses (input : SigningInput) (key : PublicKey) (secret : Secret) (selectors : List Word)
    (witness : Script) : Prop :=
  ∃ secretKey, input.keyFor? key = some secretKey ∧ secret.bytes.length < 0x100000000 ∧
    witness = Script.ofWords
      (.push ((Signature.sign secretKey input.sighash).toScriptBytes input.sighashType) ::
        .push secret.bytes :: selectors)

variable {input : SigningInput} {key : PublicKey} {secret : Secret} {selectors : List Word}
  {witness : Script}

theorem sign_secret_eq_ok_iff :
    (do
      let sig ← push (← input.sign key)
      let word ← push secret.bytes
      return Script.ofWords (sig :: word :: selectors)) = .ok witness ↔
      Discloses input key secret selectors witness := by
  simp only [Outcome.bind_eq_ok, SigningInput.sign_eq_ok_iff, push_eq_ok_iff]
  constructor
  · rintro ⟨_, ⟨secretKey, found, rfl⟩, _, ⟨-, rfl⟩, _, ⟨short, rfl⟩, ok⟩
    cases ok
    exact ⟨secretKey, found, short, rfl⟩
  · rintro ⟨secretKey, found, short, rfl⟩
    have sigShort := Signature.length_toScriptBytes_le (Signature.sign secretKey input.sighash)
      input.sighashType
    exact ⟨_, ⟨secretKey, found, rfl⟩, _, ⟨by omega, rfl⟩, _, ⟨short, rfl⟩, rfl⟩

end Witness

open Witness

variable {input : SigningInput} {secret : Secret} {witness : Script}

theorem DepositTerms.solve_change_eq_ok_iff {terms : DepositTerms} :
    terms.solve input (.change secret) = .ok witness ↔
      secret.hash = terms.spendHash ∧ Discloses input terms.payer secret [one, zero] witness := by
  rw [solve, Outcome.refuse_eq_ok, not_not, sign_secret_eq_ok_iff]

namespace CommitTerms

variable {terms : CommitTerms}

theorem solve_payout_eq_ok_iff : terms.solve input (.payout secret) = .ok witness ↔
    Discloses input terms.payee secret [one] witness :=
  sign_secret_eq_ok_iff

theorem solve_revoke_eq_ok_iff : terms.solve input (.revoke secret) = .ok witness ↔
    Discloses input terms.payer secret [zero] witness :=
  sign_secret_eq_ok_iff

end CommitTerms

/-- The change of a deposit is taken only with the secret that the deposit names. A commit is paid out
or revoked with any secret: what is asked for is the key alone, and that the secret can be pushed. -/
theorem Template.change_alone_checks_its_secret (template : Template) (input : SigningInput)
    (secret : Secret) (witness : Script) :
    (template.solve input (.change secret) = .ok witness ↔
      ∃ terms, template = .deposit terms ∧ secret.hash = terms.spendHash ∧
        Discloses input terms.payer secret [one, zero] witness) ∧
    (template.solve input (.payout secret) = .ok witness ↔
      ∃ terms, template = .commit terms ∧
        Discloses input terms.payee secret [one] witness) ∧
    (template.solve input (.revoke secret) = .ok witness ↔
      ∃ terms, template = .commit terms ∧
        Discloses input terms.payer secret [zero] witness) := by
  cases template with
  | deposit terms =>
    simp only [solve, DepositTerms.solve_change_eq_ok_iff]
    simp [DepositTerms.solve]
  | commit terms =>
    simp only [solve, CommitTerms.solve_payout_eq_ok_iff, CommitTerms.solve_revoke_eq_ok_iff]
    simp [CommitTerms.solve]

namespace Sample

def commit : CommitTerms := ⟨key.publicKey, key.publicKey, hash160 [], hash160 [], 5⟩

end Sample

/-- A secret that the script of a commit does not name is disclosed all the same, on both ways to spend
it. -/
theorem Template.other_secrets_are_disclosed :
    let secret : Secret := ⟨[1]⟩
    secret.hash ≠ Sample.commit.spendHash ∧ secret.hash ≠ Sample.commit.revokeHash ∧
    (∃ witness, (Template.commit Sample.commit).solve Sample.input (.payout secret) = .ok witness ∧
      Discloses Sample.input Sample.commit.payee secret [one] witness) ∧
    ∃ witness, (Template.commit Sample.commit).solve Sample.input (.revoke secret) = .ok witness ∧
      Discloses Sample.input Sample.commit.payer secret [zero] witness := by
  intro secret
  have otherSpend : secret.hash ≠ Sample.commit.spendHash := by decide +kernel
  have otherRevoke : secret.hash ≠ Sample.commit.revokeHash := by decide +kernel
  have payee : Sample.input.keyFor? Sample.commit.payee = some Sample.key :=
    List.find?_cons_of_pos (by simp [Sample.commit])
  have payer : Sample.input.keyFor? Sample.commit.payer = some Sample.key :=
    List.find?_cons_of_pos (by simp [Sample.commit])
  have short : secret.bytes.length < 0x100000000 := by decide
  have payout : Discloses Sample.input Sample.commit.payee secret [one] _ :=
    ⟨Sample.key, payee, short, rfl⟩
  have revoke : Discloses Sample.input Sample.commit.payer secret [zero] _ :=
    ⟨Sample.key, payer, short, rfl⟩
  exact ⟨otherSpend, otherRevoke, ⟨_, CommitTerms.solve_payout_eq_ok_iff.mpr payout, payout⟩,
    _, CommitTerms.solve_revoke_eq_ok_iff.mpr revoke, revoke⟩

end PaymentChannel
