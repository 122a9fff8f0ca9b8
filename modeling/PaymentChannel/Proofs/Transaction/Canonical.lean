import PaymentChannel.Proofs.Hex
import PaymentChannel.Proofs.Json.Record
import PaymentChannel.Proofs.Transaction.Codec
import PaymentChannel.Snapshot.Json

/-! A transaction has one stored form. A text reads as a transaction exactly where, a leading `0x`
left out and its letters in lower case, it is what that transaction is written as: no list, number
or witness has a second encoding that would be taken. Where a transaction may be absent, null stands
for that and the empty text for nothing. -/
namespace PaymentChannel
open Json

namespace Transaction

theorem ofText_eq_ok_iff {text : String} {tx : Transaction} :
    ofText text = .ok tx ↔ tx.IsReadable ∧ Hex.canonical text = tx.toHex := by
  constructor
  · intro read
    rw [ofText] at read
    split at read
    · cases read
    · rename_i bytes hex
      split at read
      · rename_i found decoded
        cases read
        refine ⟨⟨bytes, decoded⟩, ?_⟩
        rw [toHex, encode_of_decode? decoded, Hex.decodePrefixed_eq_ok_iff.mp hex]
      · cases read
  · rintro ⟨readable, same⟩
    have hex : Hex.decodePrefixed text = .ok tx.encode := Hex.decodePrefixed_eq_ok_iff.mpr same
    simp only [ofText, hex, readable.decode?_encode]

theorem ofTextNonempty_eq_ok_iff {text : String} {tx : Transaction} :
    ofTextNonempty text = .ok tx ↔ text ≠ "" ∧ ofText text = .ok tx := by
  rw [ofTextNonempty]
  split
  · rename_i empty
    simp [empty]
  · rename_i given
    exact (and_iff_right given).symm

/-- How a transaction that may be absent is stored. -/
def optionalJson (value : Option Transaction) : Json := .option (.string ·.toHex) value

end Transaction

namespace StoredReader
open Transaction

theorem transaction_eq_ok_iff {text : String} {tx : Transaction} :
    transaction (.string text) = .ok tx ↔ tx.IsReadable ∧ Hex.canonical text = tx.toHex :=
  Reader.judged_eq_ok_iff.trans ofText_eq_ok_iff

theorem optionalTransaction_eq_ok_iff {text : String} {value : Option Transaction} :
    optionalTransaction (.string text) = .ok value ↔
      text ≠ "" ∧ ∃ tx, value = some tx ∧ transaction (.string text) = .ok tx := by
  simp only [optionalTransaction, transaction, Reader.optional_eq_ok_iff, Reader.judged_eq_ok_iff,
    ofTextNonempty_eq_ok_iff]
  constructor
  · rintro ⟨tx, given, some, read⟩
    exact ⟨some, tx, given, read⟩
  · rintro ⟨some, tx, given, read⟩
    exact ⟨tx, given, some, read⟩

end StoredReader

namespace Transaction
open StoredReader

/-- What a transaction is stored as is every text that reads as it, up to a leading `0x` and to case,
and every such text reads as it. The reader of an optional transaction takes the same texts but the
empty one, and null, which is stored as null again. -/
theorem stored_form_is_unique :
    (∀ text tx, transaction (.string text) = .ok tx → tx.toHex = Hex.canonical text) ∧
    (∀ text other tx, transaction (.string text) = .ok tx →
      (transaction (.string other) = .ok tx ↔ Hex.canonical other = Hex.canonical text)) ∧
    (∀ text value, optionalTransaction (.string text) = .ok value ↔
      text ≠ "" ∧ ∃ tx, value = some tx ∧ transaction (.string text) = .ok tx) ∧
    (∀ text value, optionalTransaction (.string text) = .ok value →
      optionalJson value = .string (Hex.canonical text)) ∧
    optionalTransaction .null = .ok none ∧ optionalJson none = .null := by
  refine ⟨fun text tx read => ?_, fun text other tx read => ?_,
    fun text value => optionalTransaction_eq_ok_iff, fun text value read => ?_, rfl, rfl⟩
  · exact (transaction_eq_ok_iff.mp read).2.symm
  · obtain ⟨readable, same⟩ := transaction_eq_ok_iff.mp read
    rw [transaction_eq_ok_iff, same]
    exact and_iff_right readable
  · obtain ⟨-, tx, rfl, found⟩ := optionalTransaction_eq_ok_iff.mp read
    rw [(transaction_eq_ok_iff.mp found).2]
    rfl

namespace Sample

/-- Without inputs, so that the form with witnesses is needed to write it. -/
def inputless : Transaction := ⟨0xab, [], [], 0⟩

end Sample

theorem stored_form_is_unique_mixed_case :
    transaction (.string "0xaB0000000001000000000000") = .ok Sample.inputless ∧
    Sample.inputless.toHex = "ab0000000001000000000000" ∧
    transaction (.string "AB0000000001000000000000") = .ok Sample.inputless ∧
    optionalTransaction (.string "0xaB0000000001000000000000") = .ok (some Sample.inputless) := by
  have lower : Hex.canonical "0xaB0000000001000000000000" = "ab0000000001000000000000" := by
    decide +kernel
  have upper : Hex.canonical "AB0000000001000000000000" = "ab0000000001000000000000" := by
    decide +kernel
  have written : Sample.inputless.toHex = "ab0000000001000000000000" := by decide +kernel
  have read : transaction (.string "0xaB0000000001000000000000") = .ok Sample.inputless :=
    transaction_eq_ok_iff.mpr ⟨by decide +kernel, lower.trans written.symm⟩
  obtain ⟨form, others, optional, -⟩ := stored_form_is_unique
  exact ⟨read, (form _ _ read).trans lower, (others _ _ _ read).mpr (upper.trans lower.symm),
    (optional _ _).mpr ⟨by decide, _, rfl, read⟩⟩

end Transaction
end PaymentChannel
