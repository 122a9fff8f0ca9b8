import PaymentChannel.Proofs.Ecdsa.Encoding
import PaymentChannel.Proofs.Template.Opening
import PaymentChannel.Spend

/-! The witnesses that a channel makes open the outputs they are made for. A witness is made without
a look at the age of the output, and for a commit without a look at the secret, so whether it opens
the output is up to these; a signature and the order of the words are never what fails. -/
namespace PaymentChannel
open Machine

/-- Whether every key makes signatures that verify. -/
def SigningInput.SignaturesVerify (input : SigningInput) : Prop :=
  ∀ key ∈ input.keys, (Signature.sign key input.sighash).verify key.publicKey input.sighash = true

/-- When an output of the template is open to a spend, for its age in blocks. -/
def Template.IsOpen (age : Nat) : Template → Spend → Prop
  | .deposit terms, .timeout => terms.expireTime.toNat ≤ age
  | .deposit _, .change _ => True
  | .deposit _, .finalizeCommit _ => True
  | .commit terms, .payout secret => terms.delayTime.toNat ≤ age ∧ secret.hash = terms.spendHash
  | .commit terms, .revoke secret => secret.hash = terms.revokeHash
  | _, _ => False

variable {context : Context}

namespace Witness

theorem push_eq_ok {data : Bytes} {word : Word} (ok : push data = .ok word) :
    Pushes context word data := by
  rw [push] at ok
  split at ok
  · rename_i short
    cases ok
    exact ⟨Word.isWellFormed_push short, isPlain_push data, fun _ => execute_push data⟩
  · cases ok

theorem pushes_zero : Pushes context zero [] :=
  ⟨Word.isWellFormed_op (.inl rfl), by decide, fun _ => rfl⟩

theorem pushes_one : Pushes context one [1] :=
  ⟨Word.isWellFormed_op (.inr (by decide)), by decide, fun _ => rfl⟩

end Witness

namespace SigningInput

variable {input : SigningInput}

theorem isSignedBy_of_sign (age : Nat) {key : PublicKey} {sig : Bytes}
    (verify : input.SignaturesVerify) (ok : input.sign key = .ok sig) :
    isSignedBy ⟨input.sighash, age⟩ key.toBytes sig = true := by
  rw [sign] at ok
  split at ok
  · rename_i secretKey found
    cases ok
    have same : secretKey.publicKey = key := by simpa using List.find?_some found
    simp only [isSignedBy, PublicKey.ofBytes?_toBytes, Signature.ofScriptBytes?_toScriptBytes]
    rw [← same]
    exact verify secretKey (List.mem_of_find?_eq_some found)
  · cases ok

theorem exists_push_sign {key : PublicKey} {secretKey : SecretKey}
    (found : input.keyFor? key = some secretKey) :
    ∃ sig, input.sign key = .ok sig ∧ Witness.push sig = .ok (.push sig) := by
  refine ⟨_, by rw [sign, found], ?_⟩
  have short := Signature.length_toScriptBytes_le (Signature.sign secretKey input.sighash)
    input.sighashType
  rw [Witness.push, if_pos (by omega)]

theorem isSignedBy_of_payerSignature (age : Nat) {terms : DepositTerms} {existing : Script}
    {sig : Bytes} (ok : Witness.payerSignature terms input existing = .ok sig) :
    isSignedBy ⟨input.sighash, age⟩ terms.payer.toBytes sig = true := by
  simp only [Witness.payerSignature, Outcome.bind_eq_ok, Outcome.refuse_eq_ok] at ok
  obtain ⟨_, _, _, _, _, _, _, word, _, ok⟩ := ok
  split at ok
  · cases ok
  · rename_i parsed
    simp only [Outcome.refuse_eq_ok] at ok
    obtain ⟨-, verified, ok⟩ := ok
    cases ok
    rw [Bool.not_eq_true', Bool.not_eq_false] at verified
    simp only [isSignedBy, PublicKey.ofBytes?_toBytes, parsed, verified]

end SigningInput

open Witness

section Paths

variable {input : SigningInput} {witness : Script} (age : Nat)

namespace DepositTerms

variable {terms : DepositTerms}

theorem timeout_opens (verify : input.SignaturesVerify)
    (solved : terms.solve input .timeout = .ok witness) :
    accepts ⟨input.sighash, age⟩ witness terms.toScript = true ↔ terms.expireTime.toNat ≤ age := by
  simp only [solve, Outcome.bind_eq_ok] at solved
  obtain ⟨sig, signed, _, push, solved⟩ := solved
  cases solved
  have ran := terms.run_timeout ⟨input.sighash, age⟩ sig
  rw [SigningInput.isSignedBy_of_sign age verify signed] at ran
  exact accepts_iff (runScript_of_pushes (.cons (push_eq_ok push)
    (.cons pushes_zero (.cons pushes_zero .nil)))) ran

theorem change_opens {secret : Secret} (verify : input.SignaturesVerify)
    (solved : terms.solve input (.change secret) = .ok witness) :
    accepts ⟨input.sighash, age⟩ witness terms.toScript = true := by
  simp only [solve, Outcome.bind_eq_ok, Outcome.refuse_eq_ok] at solved
  obtain ⟨same, sig, signed, _, push, _, pushSecret, solved⟩ := solved
  cases solved
  have ran := terms.run_change ⟨input.sighash, age⟩ secret.bytes sig
  rw [SigningInput.isSignedBy_of_sign age verify signed] at ran
  exact (accepts_iff (runScript_of_pushes (.cons (push_eq_ok push)
    (.cons (push_eq_ok pushSecret) (.cons pushes_one (.cons pushes_zero .nil))))) ran).mpr
    (not_not.mp same)

theorem finalizeCommit_opens {existing : Script} (verify : input.SignaturesVerify)
    (solved : terms.solve input (.finalizeCommit existing) = .ok witness) :
    accepts ⟨input.sighash, age⟩ witness terms.toScript = true := by
  simp only [solve, Outcome.bind_eq_ok] at solved
  obtain ⟨payerSig, checked, payeeSig, signed, _, push, _, pushPayee, solved⟩ := solved
  cases solved
  -- solving has verified the signature that it takes over, and makes the other
  have payer := SigningInput.isSignedBy_of_payerSignature age checked
  have payee := SigningInput.isSignedBy_of_sign age verify signed
  have ran := terms.run_joint ⟨input.sighash, age⟩ payerSig payeeSig
  have both : areSignedInOrder ⟨input.sighash, age⟩ [payeeSig, payerSig]
      [terms.payee.toBytes, terms.payer.toBytes] = true := by
    simp only [areSignedInOrder, payer, payee, if_true]
  rw [both] at ran
  exact (accepts_iff (runScript_of_pushes (.cons pushes_zero (.cons (push_eq_ok push)
    (.cons (push_eq_ok pushPayee) (.cons pushes_one .nil)))))
    (ran.trans (if_pos trivial).symm)).mpr trivial

end DepositTerms

namespace CommitTerms

variable {terms : CommitTerms} {secret : Secret}

theorem payout_opens (verify : input.SignaturesVerify)
    (solved : terms.solve input (.payout secret) = .ok witness) :
    accepts ⟨input.sighash, age⟩ witness terms.toScript = true ↔
      terms.delayTime.toNat ≤ age ∧ secret.hash = terms.spendHash := by
  simp only [solve, Outcome.bind_eq_ok] at solved
  obtain ⟨sig, signed, _, push, _, pushSecret, solved⟩ := solved
  cases solved
  have ran := terms.run_payout ⟨input.sighash, age⟩ secret.bytes sig
  rw [SigningInput.isSignedBy_of_sign age verify signed, ← ite_and] at ran
  exact accepts_iff (runScript_of_pushes (.cons (push_eq_ok push)
    (.cons (push_eq_ok pushSecret) (.cons pushes_one .nil)))) ran

theorem revoke_opens (verify : input.SignaturesVerify)
    (solved : terms.solve input (.revoke secret) = .ok witness) :
    accepts ⟨input.sighash, age⟩ witness terms.toScript = true ↔
      secret.hash = terms.revokeHash := by
  simp only [solve, Outcome.bind_eq_ok] at solved
  obtain ⟨sig, signed, _, push, _, pushSecret, solved⟩ := solved
  cases solved
  have ran := terms.run_revoke ⟨input.sighash, age⟩ secret.bytes sig
  rw [SigningInput.isSignedBy_of_sign age verify signed] at ran
  exact accepts_iff (runScript_of_pushes (.cons (push_eq_ok push)
    (.cons (push_eq_ok pushSecret) (.cons pushes_zero .nil)))) ran

end CommitTerms

end Paths

/-- Every witness that is made, but for half a joint spend, opens the output exactly when it is
open. -/
theorem Template.witness_opens (template : Template) (input : SigningInput) (spend : Spend)
    (witness : Script) (age : Nat) (verify : input.SignaturesVerify)
    (whole : ∀ standIn, spend ≠ .createCommit standIn)
    (solved : template.solve input spend = .ok witness) :
    Machine.accepts ⟨input.sighash, age⟩ witness template.toScript = true ↔
      template.IsOpen age spend := by
  cases template with
  | deposit terms =>
    cases spend with
    | timeout => exact DepositTerms.timeout_opens age verify solved
    | change secret => exact iff_of_true (DepositTerms.change_opens age verify solved) trivial
    | createCommit standIn => exact absurd rfl (whole standIn)
    | finalizeCommit existing =>
      exact iff_of_true (DepositTerms.finalizeCommit_opens age verify solved) trivial
    | payout | revoke => cases solved
  | commit terms =>
    cases spend with
    | payout secret => exact CommitTerms.payout_opens age verify solved
    | revoke secret => exact CommitTerms.revoke_opens age verify solved
    | timeout | change | createCommit | finalizeCommit => cases solved

namespace Sample

def key : SecretKey := (SecretKey.ofScalar? 5).get (by decide +kernel)

def input : SigningInput := ⟨[key], ⟨List.replicate 32 7, rfl⟩, .all⟩

def deposit : DepositTerms := ⟨key.publicKey, key.publicKey, hash160 [], 5⟩

theorem signaturesVerify : input.SignaturesVerify := by
  have verified : (Signature.sign key input.sighash).verify key.publicKey input.sighash = true := by
    decide +kernel
  intro other member
  rw [List.mem_singleton.mp member]
  exact verified

end Sample

theorem Template.witness_opens_deposit_in_time :
    Sample.input.SignaturesVerify ∧
    ∃ witness, (Template.deposit Sample.deposit).solve Sample.input .timeout = .ok witness ∧
      (Machine.accepts ⟨Sample.input.sighash, 5⟩ witness (Template.deposit Sample.deposit).toScript =
        true ↔ (Template.deposit Sample.deposit).IsOpen 5 .timeout) := by
  have found : Sample.input.keyFor? Sample.deposit.payer = some Sample.key :=
    List.find?_cons_of_pos (by simp [Sample.deposit])
  obtain ⟨sig, signed, pushed⟩ := SigningInput.exists_push_sign found
  have solved : (Template.deposit Sample.deposit).solve Sample.input .timeout =
      .ok (Script.ofWords [.push sig, zero, zero]) := by
    simp only [Template.solve, DepositTerms.solve, Outcome.bind_eq_ok]
    exact ⟨sig, signed, _, pushed, rfl⟩
  exact ⟨Sample.signaturesVerify, _, solved,
    Template.witness_opens _ _ _ _ 5 Sample.signaturesVerify (fun _ => nofun) solved⟩

end PaymentChannel
