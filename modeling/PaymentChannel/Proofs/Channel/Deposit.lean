import PaymentChannel.Proofs.Channel.Contract

/-! What setting a key or the deposit of a channel takes, and what it changes. -/
namespace PaymentChannel

theorem Outcome.forM_option_eq_ok {ε α : Type} {option : Option α} {check : α → Except ε Unit}
    {done : Unit} :
    option.forM check = .ok done ↔ ∀ value, option = some value → check value = .ok () := by
  cases option with
  | none => simp [Option.forM, pure, Except.pure]
  | some value => simp [Option.forM]

namespace Channel.State

variable {before after : State}

theorem checkKey_eq_ok {key : SecretKey} {expected : PublicKey} {done : Unit} :
    checkKey key expected = .ok done ↔ key.publicKey = expected := by
  rw [checkKey]
  split <;> simpa

private theorem key_matches (role : DepositTerms → PublicKey) {key : SecretKey} {given : State}
    (ok : (if before.depositScript.isSome then
      before.depositTerms >>= fun terms => checkKey key (role terms) >>= fun _ => pure given
      else pure given) = .ok after) :
    after = given ∧ ∀ script, before.depositScript = some script →
      ∃ terms, DepositTerms.ofScript script = .ok terms ∧ key.publicKey = role terms := by
  split at ok
  · obtain ⟨terms, read, ok⟩ := Outcome.bind_eq_ok.mp ok
    obtain ⟨_, same, ok⟩ := Outcome.bind_eq_ok.mp ok
    cases ok
    refine ⟨rfl, fun script there => ⟨terms, ?_, checkKey_eq_ok.mp same⟩⟩
    rw [depositTerms, requireDepositScript, there] at read
    exact read
  · rename_i absent
    cases ok
    refine ⟨rfl, fun script there => ?_⟩
    simp [there] at absent

theorem setPayerKey_eq_ok {key : SecretKey} (ok : before.setPayerKey key = .ok after) :
    after = { before with payerKey := some key } ∧
      ∀ script, before.depositScript = some script →
        ∃ terms, DepositTerms.ofScript script = .ok terms ∧ key.publicKey = terms.payer :=
  key_matches DepositTerms.payer ok

theorem setPayeeKey_eq_ok {key : SecretKey} (ok : before.setPayeeKey key = .ok after) :
    after = { before with payeeKey := some key } ∧
      ∀ script, before.depositScript = some script →
        ∃ terms, DepositTerms.ofScript script = .ok terms ∧ key.publicKey = terms.payee :=
  key_matches DepositTerms.payee ok

theorem setDeposit_eq_ok {script : Script} {tx : Transaction} :
    before.setDeposit script tx = .ok after ↔
      ∃ terms, DepositTerms.ofScript script = .ok terms ∧
        (∀ other, before.depositScript = some other → other = script) ∧
        (∀ other, before.depositTransaction = some other → other = tx) ∧
        (∀ key, before.payerKey = some key → key.publicKey = terms.payer) ∧
        (∀ key, before.payeeKey = some key → key.publicKey = terms.payee) ∧
        (∀ secret, before.spendSecret = some secret → secret.hash = terms.spendHash) ∧
        after = { before with depositScript := some script, depositTransaction := some tx } := by
  simp only [setDeposit, Outcome.bind_eq_ok, Outcome.refuse_eq_ok, Outcome.forM_option_eq_ok,
    checkKey_eq_ok, Bool.or_eq_true, Option.any_eq_true, bne_iff_ne, not_or, not_exists, not_and,
    Classical.not_not]
  constructor
  · rintro ⟨terms, read, ⟨sameScript, sameTransaction⟩, _, payer, _, payee, secret, ok⟩
    cases ok
    exact ⟨terms, read, sameScript, sameTransaction, payer, payee, secret, rfl⟩
  · rintro ⟨terms, read, sameScript, sameTransaction, payer, payee, secret, rfl⟩
    exact ⟨terms, read, ⟨sameScript, sameTransaction⟩, (), payer, (), payee, secret, rfl⟩

end Channel.State
end PaymentChannel
