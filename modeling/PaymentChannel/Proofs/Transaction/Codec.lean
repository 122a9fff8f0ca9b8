import PaymentChannel.Transaction.Text

/-! Transactions are read only from the bytes that they are written as. Each reader takes from the
front of a byte string what its writer gives for the value read, so that two byte strings of one
transaction are the same, and a transaction that was read once is read from its own bytes again, and
from its text. -/
namespace PaymentChannel

namespace Hex

theorem digit_ne_x : ∀ n < 16, digit n ≠ 'x' := by decide

/-- No digit is an `x`, so that nothing of a written byte string is taken for a leading `0x`. -/
theorem unprefixed_encodeBytes (bytes : Bytes) : unprefixed (encodeBytes bytes) = encodeBytes bytes := by
  cases bytes with
  | nil => rfl
  | cons b rest =>
    have second := digit_ne_x (b.toNat % 16) (Nat.mod_lt _ (by decide))
    simp only [encodeBytes, List.flatMap_cons, List.cons_append, List.nil_append]
    rw [unprefixed]
    intro others same
    exact second (List.cons.inj (List.cons.inj same).2).1

theorem decodePrefixed_encode (bytes : Bytes) : decodePrefixed (encode bytes) = .ok bytes := by
  rw [decodePrefixed, encode, String.toList_ofList, unprefixed_encodeBytes, ← encode, decode_encode]

theorem encode_eq_empty_iff {bytes : Bytes} : encode bytes = "" ↔ bytes = [] := by
  cases bytes <;> simp [encode, encodeBytes]

end Hex

namespace ByteReader

variable {α β : Type}

/-- Whatever is read from a byte string, its written form is what was taken. -/
def Undoes (read : ByteReader α) (write : α → Bytes) : Prop :=
  ∀ bytes value rest, read bytes = some (value, rest) → bytes = write value ++ rest

theorem bind_eq_some_iff {first : ByteReader α} {next : α → ByteReader β} {bytes rest : Bytes}
    {value : β} : (first >>= next) bytes = some (value, rest) ↔
      ∃ found middle, first bytes = some (found, middle) ∧ next found middle = some (value, rest) := by
  change (first bytes).bind (fun p => next p.1 p.2) = _ ↔ _
  rw [Option.bind_eq_some_iff, Prod.exists]

theorem pure_eq_some_iff {bytes rest : Bytes} {value found : α} :
    (pure value : ByteReader α) bytes = some (found, rest) ↔ value = found ∧ bytes = rest := by
  change some (value, bytes) = _ ↔ _
  rw [Option.some_inj, Prod.mk.injEq]

theorem take_eq_some {count : Nat} {bytes taken rest : Bytes}
    (read : take count bytes = some (taken, rest)) : bytes = taken ++ rest ∧ taken.length = count := by
  simp only [take] at read
  split at read
  · rename_i whole
    cases read
    exact ⟨(List.take_append_drop count bytes).symm, whole⟩
  · cases read

theorem byte_eq_some {bytes rest : Bytes} {b : UInt8} (read : byte bytes = some (b, rest)) :
    bytes = b :: rest := by
  cases bytes with
  | nil => cases read
  | cons first others =>
    cases read
    rfl

theorem natLE_eq_some {width n : Nat} {bytes rest : Bytes}
    (read : natLE width bytes = some (n, rest)) :
    bytes = Bytes.ofNatLE width n ++ rest ∧ n < Bytes.capacity width := by
  obtain ⟨taken, middle, front, ends⟩ := bind_eq_some_iff.mp read
  obtain ⟨rfl, rfl⟩ := pure_eq_some_iff.mp ends
  obtain ⟨rfl, rfl⟩ := take_eq_some front
  exact ⟨by rw [Bytes.ofNatLE_toNatLE], Bytes.toNatLE_lt taken⟩

theorem times_eq_some {read : ByteReader α} {write : α → Bytes} (undoes : read.Undoes write)
    {count : Nat} {bytes rest : Bytes} {values : List α}
    (times : times read count bytes = some (values, rest)) :
    bytes = values.flatMap write ++ rest ∧ values.length = count := by
  induction count generalizing bytes values with
  | zero =>
    obtain ⟨rfl, rfl⟩ := pure_eq_some_iff.mp times
    exact ⟨rfl, rfl⟩
  | succ count ih =>
    obtain ⟨first, middle, front, more⟩ := bind_eq_some_iff.mp times
    obtain ⟨others, after, tail, ends⟩ := bind_eq_some_iff.mp more
    obtain ⟨rfl, rfl⟩ := pure_eq_some_iff.mp ends
    obtain ⟨tail, length⟩ := ih tail
    refine ⟨?_, by rw [List.length_cons, length]⟩
    rw [undoes _ _ _ front, tail, List.flatMap_cons, List.append_assoc]

theorem times_forall {read : ByteReader α} {property : α → Prop}
    (each : ∀ bytes value rest, read bytes = some (value, rest) → property value)
    {count : Nat} {bytes rest : Bytes} {values : List α}
    (times : times read count bytes = some (values, rest)) : ∀ value ∈ values, property value := by
  induction count generalizing bytes values with
  | zero =>
    obtain ⟨rfl, rfl⟩ := pure_eq_some_iff.mp times
    simp
  | succ count ih =>
    obtain ⟨first, middle, front, more⟩ := bind_eq_some_iff.mp times
    obtain ⟨others, after, tail, ends⟩ := bind_eq_some_iff.mp more
    obtain ⟨rfl, rfl⟩ := pure_eq_some_iff.mp ends
    exact List.forall_mem_cons.mpr ⟨each _ _ _ front, ih tail⟩

end ByteReader

open ByteReader

namespace CompactSize

theorem wide_eq_some {width least n : Nat} {bytes rest : Bytes}
    (read : wide width least bytes = some (n, rest)) :
    bytes = Bytes.ofNatLE width n ++ rest ∧ least ≤ n ∧ n < Bytes.capacity width := by
  obtain ⟨found, middle, number, ends⟩ := bind_eq_some_iff.mp read
  obtain ⟨written, fits⟩ := natLE_eq_some number
  split at ends
  · cases ends
  · rename_i large
    obtain ⟨rfl, rfl⟩ := pure_eq_some_iff.mp ends
    exact ⟨written, Nat.not_lt.mp large, fits⟩

theorem read_undoes : read.Undoes encode := by
  intro bytes n rest ok
  obtain ⟨b, after, front, ok⟩ := bind_eq_some_iff.mp ok
  rw [byte_eq_some front]
  have small : b.toNat < 256 := b.toNat_lt
  split at ok
  · rename_i marker
    obtain ⟨written, least, fits⟩ := wide_eq_some ok
    rw [Bytes.capacity, Bytes.capacity, Bytes.capacity] at fits
    rw [encode, if_neg (by omega), if_pos (by omega), marker, written, List.cons_append]
  · rename_i not2
    split at ok
    · rename_i marker
      obtain ⟨written, least, fits⟩ := wide_eq_some ok
      simp only [Bytes.capacity] at fits
      rw [encode, if_neg (by omega), if_neg (by omega), if_pos (by omega), marker, written,
        List.cons_append]
    · rename_i not4
      split at ok
      · rename_i marker
        obtain ⟨written, least, fits⟩ := wide_eq_some ok
        rw [encode, if_neg (by omega), if_neg (by omega), if_neg (by omega), marker, written,
          List.cons_append]
      · rename_i not8
        obtain ⟨rfl, rfl⟩ := pure_eq_some_iff.mp ok
        have direct : b.toNat < 0xfd := by
          rw [← UInt8.toNat_inj] at not2 not4 not8
          simp only [UInt8.reduceToNat] at not2 not4 not8
          omega
        rw [encode, if_pos direct, UInt8.ofNat_toNat, List.singleton_append]

end CompactSize

namespace Transaction

theorem readUInt32_undoes : readUInt32.Undoes fun n => Bytes.ofNatLE 4 n.toNat := by
  intro bytes value rest ok
  obtain ⟨n, middle, number, ends⟩ := bind_eq_some_iff.mp ok
  obtain ⟨rfl, rfl⟩ := pure_eq_some_iff.mp ends
  obtain ⟨written, fits⟩ := natLE_eq_some number
  dsimp only
  rw [written, UInt32.toNat_ofNat_of_lt' fits]

theorem readUInt64_undoes : readUInt64.Undoes fun n => Bytes.ofNatLE 8 n.toNat := by
  intro bytes value rest ok
  obtain ⟨n, middle, number, ends⟩ := bind_eq_some_iff.mp ok
  obtain ⟨rfl, rfl⟩ := pure_eq_some_iff.mp ends
  obtain ⟨written, fits⟩ := natLE_eq_some number
  dsimp only
  rw [written, UInt64.toNat_ofNat_of_lt' fits]

theorem readHash256_undoes : readHash256.Undoes Hash256.bytes := by
  intro bytes value rest ok
  obtain ⟨taken, middle, front, ok⟩ := bind_eq_some_iff.mp ok
  cases found : Hash256.ofBytes? taken with
  | none =>
    rw [found] at ok
    cases ok
  | some hash =>
    rw [found] at ok
    obtain ⟨rfl, rfl⟩ := pure_eq_some_iff.mp ok
    rw [(take_eq_some front).1, Hash256.bytes_of_ofBytes? found]

theorem readBytes_undoes : readBytes.Undoes encodeBytes := by
  intro bytes value rest ok
  obtain ⟨length, middle, count, taken⟩ := bind_eq_some_iff.mp ok
  obtain ⟨written, rfl⟩ := take_eq_some taken
  rw [CompactSize.read_undoes _ _ _ count, written, encodeBytes, List.append_assoc]

theorem readList_undoes {α : Type} {read : ByteReader α} {write : α → Bytes}
    (undoes : read.Undoes write) : (readList read).Undoes (encodeList write) := by
  intro bytes values rest ok
  obtain ⟨count, middle, counted, ok⟩ := bind_eq_some_iff.mp ok
  obtain ⟨written, rfl⟩ := times_eq_some undoes ok
  rw [CompactSize.read_undoes _ _ _ counted, written, encodeList, List.append_assoc]

/-- What is read as an input has no witness yet. -/
theorem readInput_undoes : readInput.Undoes encodeInput := by
  intro bytes value rest ok
  obtain ⟨txid, afterTxid, hash, ok⟩ := bind_eq_some_iff.mp ok
  obtain ⟨index, afterIndex, number, ok⟩ := bind_eq_some_iff.mp ok
  obtain ⟨script, afterScript, data, ok⟩ := bind_eq_some_iff.mp ok
  obtain ⟨sequence, afterSequence, last, ok⟩ := bind_eq_some_iff.mp ok
  obtain ⟨rfl, rfl⟩ := pure_eq_some_iff.mp ok
  rw [readHash256_undoes _ _ _ hash, readUInt32_undoes _ _ _ number, readBytes_undoes _ _ _ data,
    readUInt32_undoes _ _ _ last]
  simp only [encodeInput, List.append_assoc]

theorem readOutput_undoes : readOutput.Undoes encodeOutput := by
  intro bytes value rest ok
  obtain ⟨amount, middle, number, ok⟩ := bind_eq_some_iff.mp ok
  obtain ⟨script, after, data, ok⟩ := bind_eq_some_iff.mp ok
  obtain ⟨rfl, rfl⟩ := pure_eq_some_iff.mp ok
  rw [readUInt64_undoes _ _ _ number, readBytes_undoes _ _ _ data]
  simp only [encodeOutput, List.append_assoc]

theorem readWitness_undoes : readWitness.Undoes (encodeList encodeBytes) := by
  intro bytes witness rest ok
  obtain ⟨items, middle, front, ok⟩ := bind_eq_some_iff.mp ok
  split at ok
  · cases ok
  · obtain ⟨rfl, rfl⟩ := pure_eq_some_iff.mp ok
    exact readList_undoes readBytes_undoes _ _ _ front

/-- Filling in the witnesses takes their bytes and leaves what is written of an input. -/
theorem forEach_witness {inputs filled : List TxInput} {bytes rest : Bytes}
    (ok : forEach inputs (fun input => return { input with witness := ← readWitness }) bytes =
      some (filled, rest)) :
    bytes = filled.flatMap (fun input => encodeList encodeBytes input.witness) ++ rest ∧
      filled.map encodeInput = inputs.map encodeInput := by
  induction inputs generalizing bytes filled with
  | nil =>
    obtain ⟨rfl, rfl⟩ := pure_eq_some_iff.mp ok
    exact ⟨rfl, rfl⟩
  | cons input others ih =>
    rw [forEach, List.mapM_cons] at ok
    obtain ⟨first, middle, front, more⟩ := bind_eq_some_iff.mp ok
    obtain ⟨witness, afterWitness, items, ends⟩ := bind_eq_some_iff.mp front
    obtain ⟨rfl, rfl⟩ := pure_eq_some_iff.mp ends
    obtain ⟨tail, after, fillTail, ends⟩ := bind_eq_some_iff.mp more
    obtain ⟨rfl, rfl⟩ := pure_eq_some_iff.mp ends
    obtain ⟨written, same⟩ := ih fillTail
    refine ⟨?_, ?_⟩
    · rw [readWitness_undoes _ _ _ items, written, List.flatMap_cons, List.append_assoc]
    · rw [List.map_cons, same]
      rfl

theorem encodeList_of_map_eq {α : Type} {write : α → Bytes} {items others : List α}
    (same : items.map write = others.map write) : encodeList write items = encodeList write others := by
  have length := congrArg List.length same
  rw [List.length_map, List.length_map] at length
  rw [encodeList, encodeList, length, List.flatMap_def, List.flatMap_def, same]

theorem readWitnessed_eq_some {version : UInt32} {bytes rest : Bytes} {tx : Transaction}
    (ok : readWitnessed version bytes = some (tx, rest)) :
    Bytes.ofNatLE 4 version.toNat ++ [0, 1] ++ bytes = tx.encode ++ rest := by
  obtain ⟨inputs, afterInputs, readInputs, ok⟩ := bind_eq_some_iff.mp ok
  obtain ⟨outputs, afterOutputs, readOutputs, ok⟩ := bind_eq_some_iff.mp ok
  obtain ⟨filled, afterWitnesses, fill, ok⟩ := bind_eq_some_iff.mp ok
  split at ok
  · cases ok
  · rename_i needed
    obtain ⟨lockTime, afterLock, last, ok⟩ := bind_eq_some_iff.mp ok
    obtain ⟨rfl, rfl⟩ := pure_eq_some_iff.mp ok
    obtain ⟨witnesses, same⟩ := forEach_witness fill
    have form : (filled.isEmpty || hasWitness ⟨version, filled, outputs, lockTime⟩) = true := by
      rw [hasWitness, ← List.not_all_eq_any_not]
      simpa [Decidable.or_iff_not_imp_left] using needed
    rw [encode, if_pos form, encodeWitnessed, readList_undoes readInput_undoes _ _ _ readInputs,
      readList_undoes readOutput_undoes _ _ _ readOutputs, witnesses,
      readUInt32_undoes _ _ _ last, encodeList_of_map_eq same]
    simp only [List.append_assoc]

theorem readInput_witness {bytes rest : Bytes} {input : TxInput}
    (ok : readInput bytes = some (input, rest)) : input.witness = [] := by
  obtain ⟨_, _, _, ok⟩ := bind_eq_some_iff.mp ok
  obtain ⟨_, _, _, ok⟩ := bind_eq_some_iff.mp ok
  obtain ⟨_, _, _, ok⟩ := bind_eq_some_iff.mp ok
  obtain ⟨_, _, _, ok⟩ := bind_eq_some_iff.mp ok
  obtain ⟨rfl, rfl⟩ := pure_eq_some_iff.mp ok
  rfl

theorem read_undoes : read.Undoes encode := by
  intro bytes tx rest ok
  obtain ⟨version, afterVersion, number, ok⟩ := bind_eq_some_iff.mp ok
  obtain ⟨inputs, afterInputs, readInputs, ok⟩ := bind_eq_some_iff.mp ok
  rw [readUInt32_undoes _ _ _ number, readList_undoes readInput_undoes _ _ _ readInputs]
  split at ok
  · rename_i none
    obtain ⟨flag, afterFlag, front, ok⟩ := bind_eq_some_iff.mp ok
    split at ok
    · rename_i one
      rw [← readWitnessed_eq_some ok, byte_eq_some front, one, List.isEmpty_iff.mp none]
      simp [encodeList, CompactSize.encode]
    · cases ok
  · rename_i some
    obtain ⟨outputs, afterOutputs, readOutputs, ok⟩ := bind_eq_some_iff.mp ok
    obtain ⟨lockTime, afterLock, last, ok⟩ := bind_eq_some_iff.mp ok
    obtain ⟨rfl, rfl⟩ := pure_eq_some_iff.mp ok
    have form : ¬ (inputs.isEmpty || hasWitness ⟨version, inputs, outputs, lockTime⟩) = true := by
      obtain ⟨count, middle, -, each⟩ := bind_eq_some_iff.mp readInputs
      have bare := times_forall (fun _ _ _ => readInput_witness) each
      rw [Bool.or_eq_true, hasWitness, List.any_eq_true]
      rintro (empty | ⟨input, member, witness⟩)
      · exact some empty
      · simp [bare input member] at witness
    rw [encode, if_neg form, encodePlain, readList_undoes readOutput_undoes _ _ _ readOutputs,
      readUInt32_undoes _ _ _ last]
    simp only [List.append_assoc]

/-- A transaction is read only from the bytes that it is written as. -/
theorem encode_of_decode? {bytes : Bytes} {tx : Transaction} (decoded : decode? bytes = some tx) :
    tx.encode = bytes := by
  rw [decode?, run?] at decoded
  split at decoded
  · rename_i found ok
    cases decoded
    rw [read_undoes _ _ _ ok, List.append_nil]
  · cases decoded

/-- Some byte string is that of the transaction. Others have an input with too large a witness, or a
list or a script that is too long for the count in front of it. -/
def IsReadable (tx : Transaction) : Prop := ∃ bytes, decode? bytes = some tx

theorem IsReadable.decode?_encode {tx : Transaction} (readable : tx.IsReadable) :
    decode? tx.encode = some tx := by
  obtain ⟨bytes, decoded⟩ := readable
  rw [encode_of_decode? decoded, decoded]

instance (tx : Transaction) : Decidable tx.IsReadable :=
  decidable_of_iff (decode? tx.encode = some tx) ⟨fun decoded => ⟨_, decoded⟩, (·.decode?_encode)⟩

theorem four_le_length_encode (tx : Transaction) : 4 ≤ tx.encode.length := by
  rw [encode]
  split <;> simp only [encodeWitnessed, encodePlain, List.length_append, Bytes.length_ofNatLE] <;>
    omega

theorem IsReadable.ofText_toHex {tx : Transaction} (readable : tx.IsReadable) :
    ofText tx.toHex = .ok tx := by
  simp only [ofText, toHex, Hex.decodePrefixed_encode, readable.decode?_encode]

theorem ofText_toHex_of_none {tx : Transaction} (undecoded : decode? tx.encode = none) :
    ofText tx.toHex = .error .undecodable := by
  simp only [ofText, toHex, Hex.decodePrefixed_encode, undecoded]

theorem ofTextNonempty_toHex (tx : Transaction) : ofTextNonempty tx.toHex = ofText tx.toHex := by
  have long := four_le_length_encode tx
  have some : tx.toHex ≠ "" := by
    intro empty
    rw [toHex, Hex.encode_eq_empty_iff] at empty
    simp [empty] at long
  rw [ofTextNonempty, if_neg some]

end Transaction
end PaymentChannel
