import PaymentChannel.Proofs.Script.Number
import PaymentChannel.Template

/-! Reading a template accepts exactly the scripts that writing gives. The fields of a written script
are at the indices where they are looked for, so its terms are read back; no other script passes
the comparison at the end, and since the two templates have different numbers of words, no script is
of both. -/
namespace PaymentChannel

namespace Script

variable {words : List Word} (wf : ∀ word ∈ words, word.IsWellFormed) {index : Nat}
include wf

theorem publicKeyAt_ofWords {key : PublicKey} (there : words[index]? = some (.push key.toBytes)) :
    (ofWords words).publicKeyAt index = .ok key := by
  rw [publicKeyAt, word_ofWords wf there]
  simp [bind, Except.bind, pure, Except.pure]

theorem hash160At_ofWords {hash : Hash160} (there : words[index]? = some (.push hash.bytes)) :
    (ofWords words).hash160At index = .ok hash := by
  rw [hash160At, word_ofWords wf there]
  simp [bind, Except.bind, pure, Except.pure]

theorem sequenceAt_ofWords {n : UInt16} (there : words[index]? = some (numberWord n.toNat)) :
    (ofWords words).sequenceAt index = .ok n := by
  rw [sequenceAt, word_ofWords wf there]
  exact sequenceValue_numberWord n

end Script

open Script

private theorem isWellFormed_key (key : PublicKey) : (Word.push key.toBytes).IsWellFormed := by
  apply Word.isWellFormed_push
  rw [PublicKey.length_toBytes]
  decide

private theorem isWellFormed_hash (hash : Hash160) : (Word.push hash.bytes).IsWellFormed := by
  apply Word.isWellFormed_push
  rw [hash.length_eq]
  decide

namespace DepositTerms

theorem isWellFormed_words (terms : DepositTerms) : ∀ word ∈ terms.words, word.IsWellFormed := by
  have two : (numberWord 2).IsWellFormed := isWellFormed_numberWord 2
  simp (disch := decide) only [words, List.forall_mem_cons, Word.isWellFormed_op, two,
    isWellFormed_key, isWellFormed_hash, isWellFormed_numberWord, true_and]
  simp

theorem walk_toScript (terms : DepositTerms) : walk terms.toScript = (terms.words, .complete) :=
  walk_ofWords terms.isWellFormed_words

theorem spendHashAt_toScript (terms : DepositTerms) :
    spendHashAt terms.toScript = .ok terms.spendHash :=
  hash160At_ofWords terms.isWellFormed_words rfl

theorem expireTimeAt_toScript (terms : DepositTerms) :
    expireTimeAt terms.toScript = .ok terms.expireTime :=
  sequenceAt_ofWords terms.isWellFormed_words rfl

theorem ofScript_toScript (terms : DepositTerms) : ofScript terms.toScript = .ok terms := by
  have payer : payerAt terms.toScript = .ok terms.payer :=
    publicKeyAt_ofWords terms.isWellFormed_words rfl
  have payee : payeeAt terms.toScript = .ok terms.payee :=
    publicKeyAt_ofWords terms.isWellFormed_words rfl
  simp only [ofScript, payer, payee, spendHashAt_toScript, expireTimeAt_toScript,
    Outcome.bind_eq_ok, Outcome.ite_eq_ok]
  exact ⟨_, rfl, _, rfl, _, rfl, _, rfl, rfl, rfl⟩

theorem ofScript_eq_ok_iff {script : Script} {terms : DepositTerms} :
    ofScript script = .ok terms ↔ script = terms.toScript := by
  constructor
  · intro ok
    exact (toScript_of_ofScript ok).symm
  · intro same
    rw [same, ofScript_toScript]

end DepositTerms

namespace CommitTerms

theorem isWellFormed_words (terms : CommitTerms) : ∀ word ∈ terms.words, word.IsWellFormed := by
  simp (disch := decide) only [words, List.forall_mem_cons, Word.isWellFormed_op,
    isWellFormed_key, isWellFormed_hash, isWellFormed_numberWord, true_and]
  simp

theorem walk_toScript (terms : CommitTerms) : walk terms.toScript = (terms.words, .complete) :=
  walk_ofWords terms.isWellFormed_words

theorem revokeHashAt_toScript (terms : CommitTerms) :
    revokeHashAt terms.toScript = .ok terms.revokeHash :=
  hash160At_ofWords terms.isWellFormed_words rfl

theorem ofScript_toScript (terms : CommitTerms) : ofScript terms.toScript = .ok terms := by
  have payer : payerAt terms.toScript = .ok terms.payer :=
    publicKeyAt_ofWords terms.isWellFormed_words rfl
  have payee : payeeAt terms.toScript = .ok terms.payee :=
    publicKeyAt_ofWords terms.isWellFormed_words rfl
  have spendHash : spendHashAt terms.toScript = .ok terms.spendHash :=
    hash160At_ofWords terms.isWellFormed_words rfl
  have delayTime : delayTimeAt terms.toScript = .ok terms.delayTime :=
    sequenceAt_ofWords terms.isWellFormed_words rfl
  simp only [ofScript, payer, payee, spendHash, revokeHashAt_toScript, delayTime,
    Outcome.bind_eq_ok, Outcome.ite_eq_ok]
  exact ⟨_, rfl, _, rfl, _, rfl, _, rfl, _, rfl, rfl, rfl⟩

theorem ofScript_eq_ok_iff {script : Script} {terms : CommitTerms} :
    ofScript script = .ok terms ↔ script = terms.toScript := by
  constructor
  · intro ok
    exact (toScript_of_ofScript ok).symm
  · intro same
    rw [same, ofScript_toScript]

end CommitTerms

namespace Template

theorem toScript_deposit_ne_commit (deposit : DepositTerms) (commit : CommitTerms) :
    deposit.toScript ≠ commit.toScript := by
  intro same
  have words := ofWords_inj deposit.isWellFormed_words commit.isWellFormed_words same
  -- a deposit has more words than a commit
  exact absurd (congrArg List.length words) (by decide : (21 : Nat) ≠ 16)

theorem ofScript_toScript (template : Template) : ofScript template.toScript = .ok template := by
  cases template with
  | deposit terms => simp only [ofScript, toScript, DepositTerms.ofScript_toScript]
  | commit terms =>
    simp only [ofScript, toScript, CommitTerms.ofScript_toScript]
    split
    · rename_i other found
      have same := DepositTerms.ofScript_eq_ok_iff.mp found
      exact absurd same.symm (toScript_deposit_ne_commit other terms)
    · rfl

theorem ofScript_eq_ok_iff {script : Script} {template : Template} :
    ofScript script = .ok template ↔ script = template.toScript := by
  constructor
  · intro ok
    exact (toScript_of_ofScript ok).symm
  · intro same
    rw [same, ofScript_toScript]

/-- The readers accept the scripts that the writers give and no others, the two readers never the
same script, and so for the reader of either template. -/
theorem readers_accept_exactly_written :
    (∀ (script : Script) (terms : DepositTerms),
      DepositTerms.ofScript script = .ok terms ↔ script = terms.toScript) ∧
    (∀ (script : Script) (terms : CommitTerms),
      CommitTerms.ofScript script = .ok terms ↔ script = terms.toScript) ∧
    (∀ (script : Script) (deposit : DepositTerms) (commit : CommitTerms),
      ¬ (DepositTerms.ofScript script = .ok deposit ∧ CommitTerms.ofScript script = .ok commit)) ∧
    (∀ (script : Script) (template : Template),
      Template.ofScript script = .ok template ↔ script = template.toScript) := by
  refine ⟨fun _ _ => DepositTerms.ofScript_eq_ok_iff, fun _ _ => CommitTerms.ofScript_eq_ok_iff,
    ?_, fun _ _ => ofScript_eq_ok_iff⟩
  intro script deposit commit both
  obtain ⟨isDeposit, isCommit⟩ := both
  rw [DepositTerms.ofScript_eq_ok_iff] at isDeposit
  rw [CommitTerms.ofScript_eq_ok_iff] at isCommit
  exact toScript_deposit_ne_commit deposit commit (isDeposit.symm.trans isCommit)

end Template
end PaymentChannel
