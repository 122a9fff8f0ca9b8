import PaymentChannel.Proofs.Transaction.Codec

/-! What a transaction is written as reads as that transaction, where the length of every list and
byte string in it fits the count in front and no witness is too large. So each reader takes its value
off the front of any byte string that begins with what its writer gives; that of a witness tells
whether it can. -/
namespace PaymentChannel

namespace ByteReader

variable {α β : Type}

theorem bind_eq {first : ByteReader α} {next : α → ByteReader β} {bytes middle : Bytes} {found : α}
    (front : first bytes = some (found, middle)) : (first >>= next) bytes = next found middle := by
  change (first bytes).bind (fun p => next p.1 p.2) = _
  rw [front, Option.bind_some]

theorem bind_eq_none {first : ByteReader α} {next : α → ByteReader β} {bytes : Bytes}
    (fails : first bytes = none) : (first >>= next) bytes = none := by
  change (first bytes).bind (fun p => next p.1 p.2) = _
  rw [fails, Option.bind_none]

theorem take_append (taken rest : Bytes) :
    take taken.length (taken ++ rest) = some (taken, rest) := by
  simp [take]

theorem natLE_append {width n : Nat} (fits : n < Bytes.capacity width) (rest : Bytes) :
    natLE width (Bytes.ofNatLE width n ++ rest) = some (n, rest) := by
  have taken := take_append (Bytes.ofNatLE width n) rest
  rw [Bytes.length_ofNatLE] at taken
  rw [natLE, bind_eq taken, Bytes.toNatLE_ofNatLE, Nat.mod_eq_of_lt fits]
  rfl

/-- Values are read one after the other; `get` tells what is kept of each. -/
theorem times_flatMap {read : ByteReader α} {write : β → Bytes} (get : β → α) {items : List β}
    (each : ∀ item ∈ items, ∀ rest, read (write item ++ rest) = some (get item, rest))
    (rest : Bytes) :
    times read items.length (items.flatMap write ++ rest) = some (items.map get, rest) := by
  induction items with
  | nil => rfl
  | cons item items ih =>
    obtain ⟨head, tail⟩ := List.forall_mem_cons.mp each
    rw [List.flatMap_cons, List.append_assoc, List.length_cons, times, bind_eq (head _),
      bind_eq (ih tail)]
    rfl

end ByteReader

open ByteReader

namespace CompactSize

theorem wide_append {width least n : Nat} (large : least ≤ n) (fits : n < Bytes.capacity width)
    (rest : Bytes) : wide width least (Bytes.ofNatLE width n ++ rest) = some (n, rest) := by
  rw [wide, bind_eq (natLE_append fits rest), if_neg (Nat.not_lt.mpr large)]
  rfl

theorem read_encode {n : Nat} (fits : n < Bytes.capacity 8) (rest : Bytes) :
    read (encode n ++ rest) = some (n, rest) := by
  simp only [Bytes.capacity] at fits
  have front (b : UInt8) (others : Bytes) : byte (b :: others) = some (b, others) := rfl
  rw [encode]
  split
  · rename_i direct
    have small : (UInt8.ofNat n).toNat = n := by rw [UInt8.toNat_ofNat']; omega
    have unmarked {marker : UInt8} (high : 0xfd ≤ marker.toNat) : UInt8.ofNat n ≠ marker := by
      rintro rfl
      omega
    rw [List.singleton_append, read, bind_eq (front _ rest), if_neg (unmarked (by decide)),
      if_neg (unmarked (by decide)), if_neg (unmarked (by decide)), small]
    rfl
  · split
    · rw [List.cons_append, read, bind_eq (front _ _), if_pos rfl]
      exact wide_append (by omega) (by simp only [Bytes.capacity]; omega) rest
    · split
      · rw [List.cons_append, read, bind_eq (front _ _), if_neg (by decide), if_pos rfl]
        exact wide_append (by omega) (by simp only [Bytes.capacity]; omega) rest
      · rw [List.cons_append, read, bind_eq (front _ _), if_neg (by decide), if_neg (by decide),
          if_pos rfl]
        exact wide_append (by omega) (by simp only [Bytes.capacity]; omega) rest

end CompactSize

namespace Transaction

/-- Every length in it can be written as a count. -/
structure IsCountable (tx : Transaction) : Prop where
  inputs : tx.inputs.length < Bytes.capacity 8
  outputs : tx.outputs.length < Bytes.capacity 8
  inputScripts : ∀ input ∈ tx.inputs, input.script.length < Bytes.capacity 8
  outputScripts : ∀ output ∈ tx.outputs, output.script.length < Bytes.capacity 8
  witnesses : ∀ input ∈ tx.inputs, input.witness.length < Bytes.capacity 8
  witnessItems : ∀ input ∈ tx.inputs, ∀ item ∈ input.witness, item.length < Bytes.capacity 8

theorem readUInt32_append (n : UInt32) (rest : Bytes) :
    readUInt32 (Bytes.ofNatLE 4 n.toNat ++ rest) = some (n, rest) := by
  rw [readUInt32, bind_eq (natLE_append n.toNat_lt rest), UInt32.ofNat_toNat]
  rfl

theorem readUInt64_append (n : UInt64) (rest : Bytes) :
    readUInt64 (Bytes.ofNatLE 8 n.toNat ++ rest) = some (n, rest) := by
  rw [readUInt64, bind_eq (natLE_append n.toNat_lt rest), UInt64.ofNat_toNat]
  rfl

theorem readHash256_append (hash : Hash256) (rest : Bytes) :
    readHash256 (hash.bytes ++ rest) = some (hash, rest) := by
  have taken := take_append hash.bytes rest
  rw [hash.length_eq] at taken
  rw [readHash256, bind_eq taken, Hash256.ofBytes?_bytes]
  rfl

theorem readBytes_append {bytes : Bytes} (fits : bytes.length < Bytes.capacity 8) (rest : Bytes) :
    readBytes (encodeBytes bytes ++ rest) = some (bytes, rest) := by
  rw [readBytes, encodeBytes, List.append_assoc, bind_eq (CompactSize.read_encode fits _), take_append]

theorem readList_append {α β : Type} {read : ByteReader α} {write : β → Bytes} (get : β → α)
    {items : List β} (fits : items.length < Bytes.capacity 8)
    (each : ∀ item ∈ items, ∀ rest, read (write item ++ rest) = some (get item, rest))
    (rest : Bytes) :
    readList read (encodeList write items ++ rest) = some (items.map get, rest) := by
  rw [readList, encodeList, List.append_assoc, bind_eq (CompactSize.read_encode fits _),
    times_flatMap get each]

/-- An input as far as it is read in its place. -/
def bare (input : TxInput) : TxInput := { input with witness := [] }

theorem readInput_append {input : TxInput} (fits : input.script.length < Bytes.capacity 8)
    (rest : Bytes) :
    readInput (encodeInput input ++ rest) = some (bare input, rest) := by
  rw [readInput, encodeInput]
  simp only [List.append_assoc]
  rw [bind_eq (readHash256_append _ _), bind_eq (readUInt32_append _ _),
    bind_eq (readBytes_append fits _), bind_eq (readUInt32_append _ _)]
  rfl

theorem readOutput_append {output : TxOutput} (fits : output.script.length < Bytes.capacity 8)
    (rest : Bytes) :
    readOutput (encodeOutput output ++ rest) = some (output, rest) := by
  rw [readOutput, encodeOutput, List.append_assoc, bind_eq (readUInt64_append _ _),
    bind_eq (readBytes_append fits _)]
  rfl

theorem readWitness_append {witness : List Bytes} (fits : witness.length < Bytes.capacity 8)
    (items : ∀ item ∈ witness, item.length < Bytes.capacity 8) (rest : Bytes) :
    readWitness (encodeList encodeBytes witness ++ rest) =
      if witnessSize witness ≤ maxWitnessSize then some (witness, rest) else none := by
  have read : readList readBytes (encodeList encodeBytes witness ++ rest) = some (witness, rest) := by
    have read := readList_append id fits
      (fun item member => readBytes_append (items item member)) rest
    rwa [List.map_id] at read
  rw [readWitness, bind_eq read]
  by_cases small : witnessSize witness ≤ maxWitnessSize
  · rw [if_neg (Nat.not_lt.mpr small), if_pos small]
    rfl
  · rw [if_pos (Nat.not_le.mp small), if_neg small]
    rfl

/-- The witnesses are put back into the inputs, unless one of them is too large. -/
theorem forEach_append {inputs : List TxInput}
    (fits : ∀ input ∈ inputs, input.witness.length < Bytes.capacity 8)
    (items : ∀ input ∈ inputs, ∀ item ∈ input.witness, item.length < Bytes.capacity 8)
    (rest : Bytes) :
    forEach (inputs.map bare) (fun input => return { input with witness := ← readWitness })
      (inputs.flatMap (fun input => encodeList encodeBytes input.witness) ++ rest) =
        if ∀ input ∈ inputs, witnessSize input.witness ≤ maxWitnessSize then some (inputs, rest)
        else none := by
  induction inputs with
  | nil => rfl
  | cons input others ih =>
    rw [List.forall_mem_cons] at fits items
    have all : (∀ other ∈ input :: others, witnessSize other.witness ≤ maxWitnessSize) ↔ _ :=
      List.forall_mem_cons
    have witness (rest : Bytes) := readWitness_append fits.1 items.1 rest
    have tail := ih fits.2 items.2
    rw [forEach] at tail ⊢
    rw [List.map_cons, List.mapM_cons, List.flatMap_cons, List.append_assoc]
    by_cases small : witnessSize input.witness ≤ maxWitnessSize
    · have first (rest : Bytes) :
          (do return { bare input with witness := ← readWitness } : ByteReader TxInput)
            (encodeList encodeBytes input.witness ++ rest) = some (input, rest) := by
        rw [bind_eq ((witness rest).trans (if_pos small))]
        rfl
      rw [bind_eq (first _)]
      by_cases later : ∀ input ∈ others, witnessSize input.witness ≤ maxWitnessSize
      · rw [bind_eq (tail.trans (if_pos later)), if_pos (all.mpr ⟨small, later⟩)]
        rfl
      · rw [bind_eq_none (tail.trans (if_neg later)), if_neg fun each => later (all.mp each).2]
    · rw [bind_eq_none (bind_eq_none ((witness _).trans (if_neg small))),
        if_neg fun each => small (all.mp each).1]

theorem witness_of_unwitnessed {tx : Transaction} (unwitnessed : tx.hasWitness = false) :
    ∀ input ∈ tx.inputs, input.witness = [] := by
  intro input member
  simpa using List.any_eq_false.mp unwitnessed input member

namespace IsCountable

variable {tx : Transaction}

theorem readInputs (countable : tx.IsCountable) (rest : Bytes) :
    readList readInput (encodeList encodeInput tx.inputs ++ rest) =
      some (tx.inputs.map bare, rest) :=
  readList_append bare countable.inputs
    (fun input member => readInput_append (countable.inputScripts input member)) rest

theorem readOutputs (countable : tx.IsCountable) (rest : Bytes) :
    readList readOutput (encodeList encodeOutput tx.outputs ++ rest) = some (tx.outputs, rest) := by
  have read := readList_append id countable.outputs
    (fun output member => readOutput_append (countable.outputScripts output member)) rest
  rwa [List.map_id] at read

theorem read_encodePlain (countable : tx.IsCountable) (given : tx.inputs.isEmpty = false)
    (unwitnessed : tx.hasWitness = false) : read tx.encodePlain = some (tx, []) := by
  have same : tx.inputs.map bare = tx.inputs := by
    refine (List.map_congr_left fun input member => ?_).trans tx.inputs.map_id
    rw [bare, ← witness_of_unwitnessed unwitnessed input member, id]
  have inputs := countable.readInputs
  rw [same] at inputs
  have lockTime := readUInt32_append tx.lockTime []
  rw [List.append_nil] at lockTime
  rw [read, encodePlain]
  simp only [List.append_assoc]
  rw [bind_eq (readUInt32_append _ _), bind_eq (inputs _), given, if_neg Bool.false_ne_true,
    bind_eq (countable.readOutputs _), bind_eq lockTime]
  rfl

theorem read_encodeWitnessed (countable : tx.IsCountable)
    (needed : (!tx.inputs.isEmpty && tx.inputs.all (·.witness.isEmpty)) = false) :
    read tx.encodeWitnessed =
      if ∀ input ∈ tx.inputs, witnessSize input.witness ≤ maxWitnessSize then some (tx, [])
      else none := by
  have marker (rest : Bytes) : readList readInput (0 :: rest) = some ([], rest) := rfl
  have flag (rest : Bytes) : byte (1 :: rest) = some (1, rest) := rfl
  have lockTime := readUInt32_append tx.lockTime []
  rw [List.append_nil] at lockTime
  have witnesses (rest : Bytes) := forEach_append countable.witnesses countable.witnessItems rest
  rw [read, encodeWitnessed]
  simp only [List.append_assoc, List.cons_append, List.nil_append]
  rw [bind_eq (readUInt32_append _ _), bind_eq (marker _), if_pos List.isEmpty_nil, bind_eq (flag _),
    if_pos rfl, readWitnessed, bind_eq (countable.readInputs _), bind_eq (countable.readOutputs _)]
  split
  · rename_i small
    rw [bind_eq ((witnesses _).trans (if_pos small)), needed, if_neg Bool.false_ne_true,
      bind_eq lockTime]
    rfl
  · rename_i large
    rw [bind_eq_none ((witnesses _).trans (if_neg large))]

/-- What is written is read, unless a witness is too large. -/
theorem decode?_encode (countable : tx.IsCountable) :
    decode? tx.encode =
      if ∀ input ∈ tx.inputs, witnessSize input.witness ≤ maxWitnessSize then some tx else none := by
  have whole : read tx.encode =
      if ∀ input ∈ tx.inputs, witnessSize input.witness ≤ maxWitnessSize then some (tx, [])
      else none := by
    rw [encode]
    split
    · rename_i form
      refine countable.read_encodeWitnessed ?_
      rw [hasWitness, ← List.not_all_eq_any_not] at form
      simpa [Decidable.or_iff_not_imp_left] using form
    · rename_i form
      rw [Bool.or_eq_true, not_or, Bool.not_eq_true, Bool.not_eq_true] at form
      rw [countable.read_encodePlain form.1 form.2, if_pos]
      intro input member
      rw [witness_of_unwitnessed form.2 input member]
      exact Nat.zero_le _
  by_cases small : ∀ input ∈ tx.inputs, witnessSize input.witness ≤ maxWitnessSize
  · rw [if_pos small] at whole ⊢
    rw [decode?, run?, whole]
  · rw [if_neg small] at whole ⊢
    rw [decode?, run?, whole]

/-- A transaction whose lengths can be written is read exactly when none of its witnesses is too
large. -/
theorem isReadable_iff (countable : tx.IsCountable) :
    tx.IsReadable ↔ ∀ input ∈ tx.inputs, witnessSize input.witness ≤ maxWitnessSize := by
  have decoded := countable.decode?_encode
  constructor
  · intro readable
    rw [readable.decode?_encode] at decoded
    split at decoded
    · assumption
    · cases decoded
  · intro small
    exact ⟨tx.encode, decoded.trans (if_pos small)⟩

end IsCountable

end Transaction
end PaymentChannel
