import PaymentChannel.Proofs.Spend.Acceptance

/-! The two halves of a joint spend. The payer makes a witness with something that stands for the
payee's signature, and the payee completes it. What the payee accepts is known exactly, whoever made
it: four words, the first a zero and the last a one, the second a signature by the payer of what the
payee is about to sign. The third is replaced unread. -/
namespace PaymentChannel

namespace Witness

/-- The witness of a joint spend. -/
def joint (payer payee : Bytes) : Script := Script.ofWords [zero, .push payer, .push payee, one]

/-- What the payee completes: four words and no more, the first a zero, the last a one, and the
second the payer's signature, of the sighash type that the payee signs with. -/
def HasPayerSignature (terms : DepositTerms) (input : SigningInput) (existing : Script)
    (payer : Bytes) : Prop :=
  ∃ first second third last,
    Script.walk existing = ([first, second, third, last], .complete) ∧
    first.opcode = Opcode.zero ∧ last.opcode = Opcode.one ∧ second.data = payer ∧
    ∃ der sig, payer = der ++ [input.sighashType.toByte] ∧
      Signature.Der.decode? der = some sig ∧ sig.verify terms.payer input.sighash = true

theorem push_eq_ok_iff {data : Bytes} {word : Word} :
    push data = .ok word ↔ data.length < 0x100000000 ∧ word = .push data := by
  by_cases short : data.length < 0x100000000 <;> simp [push, short, eq_comm]

theorem walk_joint {payer payee : Bytes} (payerShort : payer.length < 0x100000000)
    (payeeShort : payee.length < 0x100000000) :
    Script.walk (joint payer payee) = ([zero, .push payer, .push payee, one], .complete) := by
  apply Script.walk_ofWords
  simp only [List.forall_mem_cons]
  exact ⟨Word.isWellFormed_op (.inl rfl), Word.isWellFormed_push payerShort,
    Word.isWellFormed_push payeeShort, Word.isWellFormed_op (.inr (by decide)), by simp⟩

/-- A cut script counts as one more item, but has no word there. -/
theorem walk_of_itemCount {script : Script} {last : Word} (count : Script.itemCount script = 4)
    (there : (Script.walk script).1[3]? = some last) :
    ∃ first second third, Script.walk script = ([first, second, third, last], .complete) := by
  rw [Script.itemCount, Script.words, Script.ending] at count
  generalize Script.walk script = walked at count there ⊢
  obtain ⟨words, ending⟩ := walked
  dsimp only at count there
  have long : 3 < words.length := (List.getElem?_eq_some_iff.mp there).1
  split at count
  · rename_i whole
    subst whole
    match words, count, there with
    | [first, second, third, fourth], _, there =>
      cases there
      exact ⟨first, second, third, rfl⟩
  · omega

variable {terms : DepositTerms} {input : SigningInput} {existing : Script}

theorem payerSignature_eq_ok_iff {payer : Bytes} :
    payerSignature terms input existing = .ok payer ↔
      HasPayerSignature terms input existing payer := by
  simp only [payerSignature, Outcome.bind_eq_ok, Outcome.refuse_eq_ok, Script.word_eq_ok_iff]
  constructor
  · rintro ⟨first, atFirst, start, count, last, atLast, ends, second, atSecond, ok⟩
    obtain ⟨first', second', third, walked⟩ := walk_of_itemCount (not_not.mp count) atLast
    rw [walked] at atFirst atSecond
    cases atFirst
    cases atSecond
    split at ok
    · cases ok
    · rename_i sig kind parsed
      simp only [Outcome.refuse_eq_ok] at ok
      obtain ⟨sameKind, verified, ok⟩ := ok
      cases ok
      cases not_not.mp sameKind
      obtain ⟨der, bytes, decoded⟩ := Signature.ofScriptBytes?_eq_some_iff.mp parsed
      refine ⟨first, second, third, last, walked, not_not.mp start, not_not.mp ends, rfl, der, sig,
        bytes, decoded, ?_⟩
      simpa using verified
  · rintro ⟨first, second, third, last, walked, start, ends, rfl, der, sig, bytes, decoded, verified⟩
    have count : Script.itemCount existing = 4 := by
      rw [Script.itemCount, Script.words, Script.ending, walked]
      rfl
    have parsed := Signature.ofScriptBytes?_eq_some_iff.mpr ⟨der, bytes, decoded⟩
    rw [walked]
    refine ⟨first, rfl, not_not.mpr start, not_not.mpr count, last, rfl, not_not.mpr ends, second,
      rfl, ?_⟩
    simp [parsed, verified, pure, Except.pure]

theorem HasPayerSignature.length_lt {payer : Bytes}
    (half : HasPayerSignature terms input existing payer) : payer.length < 0x100000000 := by
  obtain ⟨first, second, third, last, walked, -, -, rfl, -⟩ := half
  apply Word.length_data_lt
  exact Script.isWellFormed_of_mem_walk existing second (by simp [walked])

theorem HasPayerSignature.of_joint {payer payee : Bytes}
    (half : HasPayerSignature terms input existing payer) (short : payee.length < 0x100000000) :
    HasPayerSignature terms input (joint payer payee) payer := by
  have walked := walk_joint half.length_lt short
  obtain ⟨_, _, _, _, _, _, _, rfl, signed⟩ := half
  exact ⟨_, _, _, _, walked, rfl, rfl, Word.data_push _, signed⟩

end Witness

theorem SigningInput.sign_eq_ok_iff {input : SigningInput} {key : PublicKey} {sig : Bytes} :
    input.sign key = .ok sig ↔ ∃ secretKey, input.keyFor? key = some secretKey ∧
      sig = (Signature.sign secretKey input.sighash).toScriptBytes input.sighashType := by
  rw [sign]
  cases input.keyFor? key <;> simp [eq_comm]

open Witness

namespace DepositTerms

variable {terms : DepositTerms} {input : SigningInput} {existing : Script}

theorem solve_finalizeCommit_eq_ok_iff {witness : Script} :
    terms.solve input (.finalizeCommit existing) = .ok witness ↔
      ∃ payer key, HasPayerSignature terms input existing payer ∧
        input.keyFor? terms.payee = some key ∧
        witness = joint payer ((Signature.sign key input.sighash).toScriptBytes input.sighashType) := by
  simp only [solve, Outcome.bind_eq_ok, payerSignature_eq_ok_iff, SigningInput.sign_eq_ok_iff,
    push_eq_ok_iff]
  constructor
  · rintro ⟨payer, half, _, ⟨key, found, rfl⟩, _, ⟨-, rfl⟩, _, ⟨-, rfl⟩, ok⟩
    cases ok
    exact ⟨payer, key, half, found, rfl⟩
  · rintro ⟨payer, key, half, found, rfl⟩
    have short := Signature.length_toScriptBytes_le (Signature.sign key input.sighash)
      input.sighashType
    exact ⟨payer, half, _, ⟨key, found, rfl⟩, _, ⟨half.length_lt, rfl⟩, _, ⟨by omega, rfl⟩, rfl⟩

theorem finalizeCommit_stable {witness : Script}
    (solved : terms.solve input (.finalizeCommit existing) = .ok witness) :
    terms.solve input (.finalizeCommit witness) = .ok witness := by
  obtain ⟨payer, key, half, found, rfl⟩ := solve_finalizeCommit_eq_ok_iff.mp solved
  have short := Signature.length_toScriptBytes_le (Signature.sign key input.sighash)
    input.sighashType
  exact solve_finalizeCommit_eq_ok_iff.mpr ⟨payer, key, half.of_joint (by omega), found, rfl⟩

/-- Nothing of the third word is read, not even for what is refused. -/
theorem finalizeCommit_of_third {replaced : Script} {first second third other last : Word}
    (walked : Script.walk existing = ([first, second, third, last], .complete))
    (walked' : Script.walk replaced = ([first, second, other, last], .complete)) :
    terms.solve input (.finalizeCommit replaced) = terms.solve input (.finalizeCommit existing) := by
  have same : payerSignature terms input replaced = payerSignature terms input existing := by
    simp only [payerSignature, Script.word, Script.itemCount, Script.words, Script.ending, walked,
      walked']
    rfl
  simp only [solve, same]

theorem hasPayerSignature_of_createCommit {creator : SigningInput} {standIn : Option Bytes}
    (sameHash : creator.sighash = input.sighash) (sameType : creator.sighashType = input.sighashType)
    (verify : creator.SignaturesVerify)
    (made : terms.solve creator (.createCommit standIn) = .ok existing) :
    ∃ payer, HasPayerSignature terms input existing payer := by
  simp only [solve, Outcome.bind_eq_ok, SigningInput.sign_eq_ok_iff, push_eq_ok_iff] at made
  obtain ⟨_, ⟨key, found, rfl⟩, _, ⟨short, rfl⟩, _, ⟨otherShort, rfl⟩, made⟩ := made
  cases made
  have same : key.publicKey = terms.payer := by simpa using List.find?_some found
  refine ⟨_, _, _, _, _, walk_joint short otherShort, rfl, rfl, Word.data_push _,
    Signature.Der.encode (Signature.sign key creator.sighash), _, ?_,
    Signature.Der.decode?_encode _, ?_⟩
  · rw [Signature.toScriptBytes, sameType]
  · rw [← same, ← sameHash]
    exact verify key (List.mem_of_find?_eq_some found)

end DepositTerms

/-- Completing a joint spend succeeds exactly for a payer's half with a good signature, where the
payee's key is there, and gives both signatures between the selectors. It replaces the third word
unread, changes nothing the second time, and completes whatever the payer made for it. -/
theorem DepositTerms.joint_spend_handshake (terms : DepositTerms) (input : SigningInput)
    (existing : Script) :
    (∀ witness, terms.solve input (.finalizeCommit existing) = .ok witness ↔
      ∃ payer key, HasPayerSignature terms input existing payer ∧
        input.keyFor? terms.payee = some key ∧
        witness = joint payer
          ((Signature.sign key input.sighash).toScriptBytes input.sighashType)) ∧
    (∀ replaced first second third other last,
      Script.walk existing = ([first, second, third, last], .complete) →
      Script.walk replaced = ([first, second, other, last], .complete) →
      terms.solve input (.finalizeCommit replaced) =
        terms.solve input (.finalizeCommit existing)) ∧
    (∀ witness, terms.solve input (.finalizeCommit existing) = .ok witness →
      terms.solve input (.finalizeCommit witness) = .ok witness) ∧
    ∀ (creator : SigningInput) (standIn : Option Bytes), creator.sighash = input.sighash →
      creator.sighashType = input.sighashType → creator.SignaturesVerify →
      terms.solve creator (.createCommit standIn) = .ok existing →
      (input.keyFor? terms.payee).isSome →
      ∃ witness, terms.solve input (.finalizeCommit existing) = .ok witness := by
  refine ⟨fun _ => solve_finalizeCommit_eq_ok_iff, ?_, fun _ => finalizeCommit_stable, ?_⟩
  · intro replaced first second third other last walked walked'
    exact finalizeCommit_of_third walked walked'
  · intro creator standIn sameHash sameType verify made known
    obtain ⟨payer, half⟩ := hasPayerSignature_of_createCommit sameHash sameType verify made
    obtain ⟨key, found⟩ := Option.isSome_iff_exists.mp known
    exact ⟨_, solve_finalizeCommit_eq_ok_iff.mpr ⟨payer, key, half, found, rfl⟩⟩

theorem DepositTerms.joint_spend_handshake_completes :
    Sample.input.SignaturesVerify ∧ (Sample.input.keyFor? Sample.deposit.payee).isSome ∧
    ∃ half whole, Sample.deposit.solve Sample.input (.createCommit (some [])) = .ok half ∧
      Sample.deposit.solve Sample.input (.finalizeCommit half) = .ok whole ∧
      Sample.deposit.solve Sample.input (.finalizeCommit whole) = .ok whole := by
  have found : Sample.input.keyFor? Sample.deposit.payee = some Sample.key :=
    List.find?_cons_of_pos (by simp [Sample.deposit])
  have known : (Sample.input.keyFor? Sample.deposit.payee).isSome := by rw [found]; rfl
  obtain ⟨sig, signed, pushed⟩ := SigningInput.exists_push_sign
    (show Sample.input.keyFor? Sample.deposit.payer = some Sample.key from found)
  have made : Sample.deposit.solve Sample.input (.createCommit (some [])) =
      .ok (joint sig []) := by
    simp only [DepositTerms.solve, Outcome.bind_eq_ok]
    exact ⟨sig, signed, _, pushed, _, rfl, rfl⟩
  have handshake := DepositTerms.joint_spend_handshake Sample.deposit Sample.input (joint sig [])
  obtain ⟨whole, solved⟩ := handshake.2.2.2 Sample.input (some []) rfl rfl Sample.signaturesVerify
    made known
  exact ⟨Sample.signaturesVerify, known, _, whole, made, solved, handshake.2.2.1 whole solved⟩

end PaymentChannel
