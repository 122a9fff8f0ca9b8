import PaymentChannel.Proofs.Channel.Run
import PaymentChannel.Proofs.Json.Document
import PaymentChannel.Proofs.Json.Layout
import PaymentChannel.Proofs.Transaction.Codec
import PaymentChannel.Snapshot.Json

/-! The stored text of a snapshot is read as that snapshot. Of its fields only the transactions can be
such that nothing reads as them, as the counts in their bytes and the size of a witness are limited; a
snapshot of transactions that were read once is kept whole. Restoring it gives a state whose snapshot
it is. -/
namespace PaymentChannel
open Json

namespace StoredReader

theorem script_string (bytes : Script) : script (.string (Hex.encode bytes)) = .ok bytes :=
  Reader.parsed_string (by rw [Hex.decode_encode]; rfl)

theorem secret_string (value : Secret) : secret (.string value.toHex) = .ok value :=
  Reader.parsed_string value.ofHex?_toHex

theorem secretKey_string (key : SecretKey) : secretKey (.string key.toHex) = .ok key :=
  Reader.parsed_string key.ofHex?_toHex

theorem transaction_string {tx : Transaction} (readable : tx.IsReadable) :
    transaction (.string tx.toHex) = .ok tx :=
  Reader.judged_string readable.ofText_toHex

theorem optionalTransaction_string {value : Option Transaction}
    (readable : ∀ tx ∈ value, tx.IsReadable) :
    optionalTransaction (.option (.string <| ·.toHex) value) = .ok value :=
  Reader.optional_string fun tx member => Reader.judged_string <| by
    rw [Transaction.ofTextNonempty_toHex, (readable tx member).ofText_toHex]

theorem optionalTransaction_undecodable {tx : Transaction}
    (undecoded : Transaction.decode? tx.encode = none) :
    optionalTransaction (.string tx.toHex) = .error (.badValue .undecodable) :=
  Reader.optional_string_error <| Reader.judged_string_error <| by
    rw [Transaction.ofTextNonempty_toHex, Transaction.ofText_toHex_of_none undecoded]

end StoredReader

namespace Channel.Commit

/-- The document of each field. -/
def written (commit : Commit) : Field → Json
  | .transaction => .string commit.transaction.toHex
  | .script => .string (Hex.encode commit.script)
  | .revokeSecret => .option (.string ·.toHex) commit.revokeSecret

theorem toJson_eq (commit : Commit) :
    commit.toJson = .record (schema.fields.map fun field => (schema.name field, commit.written field)) :=
  rfl

def values (commit : Commit) : schema.Values
  | .transaction => commit.transaction
  | .script => commit.script
  | .revokeSecret => commit.revokeSecret

theorem field?_name (field : schema.Field) : schema.field? (schema.name field) = some field := by
  cases field <;> decide

theorem read_written {commit : Commit} (readable : commit.transaction.IsReadable) (field : Field) :
    schema.read field (commit.written field) = .ok (commit.values field) := by
  cases field with
  | transaction => exact StoredReader.transaction_string readable
  | script => exact StoredReader.script_string commit.script
  | revokeSecret => exact Reader.optional_string fun secret _ => StoredReader.secret_string secret

theorem read_toJson {commit : Commit} (readable : commit.transaction.IsReadable) :
    read commit.toJson = .ok commit := by
  rw [read, toJson_eq,
    Schema.IsLayout.readValues_record field?_name (by decide) (read_written readable)]
  rfl

theorem isPlain_written (commit : Commit) (field : Field) : (commit.written field).isPlain := by
  cases field with
  | transaction | script => rfl
  | revokeSecret => exact isPlain_option (fun _ => rfl) _

theorem isPlain_toJson (commit : Commit) : commit.toJson.isPlain := by
  rw [toJson_eq]
  refine isPlain_record fun member written => ?_
  obtain ⟨field, _, rfl⟩ := List.mem_map.mp written
  exact commit.isPlain_written field

end Channel.Commit

namespace Snapshot
open Channel (Commit)

/-- Every transaction of a snapshot, also those of its commits. -/
def transactions (snapshot : Snapshot) : List Transaction :=
  snapshot.depositTransaction.toList ++ snapshot.timeoutTransaction.toList ++
    snapshot.changeTransaction.toList ++
    (snapshot.active ++ snapshot.revoked).map (·.transaction)

def IsReadable (snapshot : Snapshot) : Prop := ∀ tx ∈ snapshot.transactions, tx.IsReadable

instance (snapshot : Snapshot) : Decidable snapshot.IsReadable :=
  inferInstanceAs (Decidable (∀ tx ∈ snapshot.transactions, tx.IsReadable))

/-- The document of each field. -/
def written (snapshot : Snapshot) : Field → Json
  | .payerKey => .option (.string ·.toHex) snapshot.payerKey
  | .payeeKey => .option (.string ·.toHex) snapshot.payeeKey
  | .spendSecret => .option (.string ·.toHex) snapshot.spendSecret
  | .depositScript => .option (.string <| Hex.encode ·) snapshot.depositScript
  | .depositTransaction => .option (.string ·.toHex) snapshot.depositTransaction
  | .timeoutTransaction => .option (.string ·.toHex) snapshot.timeoutTransaction
  | .changeTransaction => .option (.string ·.toHex) snapshot.changeTransaction
  | .requested => .list (snapshot.requested.map (.string ·.toHex))
  | .active => .list (snapshot.active.map (·.toJson))
  | .revoked => .list (snapshot.revoked.map (·.toJson))

theorem toJson_eq (snapshot : Snapshot) :
    snapshot.toJson =
      .record (schema.fields.map fun field => (schema.name field, snapshot.written field)) :=
  rfl

def values (snapshot : Snapshot) : schema.Values
  | .payerKey => snapshot.payerKey
  | .payeeKey => snapshot.payeeKey
  | .spendSecret => snapshot.spendSecret
  | .depositScript => snapshot.depositScript
  | .depositTransaction => snapshot.depositTransaction
  | .timeoutTransaction => snapshot.timeoutTransaction
  | .changeTransaction => snapshot.changeTransaction
  | .requested => snapshot.requested
  | .active => snapshot.active
  | .revoked => snapshot.revoked

theorem field?_name (field : schema.Field) : schema.field? (schema.name field) = some field := by
  cases field <;> decide

theorem read_written {snapshot : Snapshot} (readable : snapshot.IsReadable) (field : Field) :
    schema.read field (snapshot.written field) = .ok (snapshot.values field) := by
  simp only [IsReadable, transactions, List.mem_append, Option.mem_toList, List.mem_map] at readable
  have commits : ∀ commit ∈ snapshot.active ++ snapshot.revoked, Commit.read commit.toJson = .ok commit :=
    fun commit member =>
      Commit.read_toJson (readable _ (.inr ⟨commit, List.mem_append.mp member, rfl⟩))
  cases field with
  | payerKey | payeeKey => exact Reader.optional_string fun key _ => StoredReader.secretKey_string key
  | spendSecret => exact Reader.optional_string fun secret _ => StoredReader.secret_string secret
  | depositScript => exact Reader.optional_string fun script _ => StoredReader.script_string script
  | depositTransaction =>
    exact StoredReader.optionalTransaction_string fun tx given => readable tx (.inl (.inl (.inl given)))
  | timeoutTransaction =>
    exact StoredReader.optionalTransaction_string fun tx given => readable tx (.inl (.inl (.inr given)))
  | changeTransaction =>
    exact StoredReader.optionalTransaction_string fun tx given => readable tx (.inl (.inr given))
  | requested => exact Reader.list_map fun secret _ => StoredReader.secret_string secret
  | active => exact Reader.list_map fun commit member => commits commit (List.mem_append_left _ member)
  | revoked => exact Reader.list_map fun commit member => commits commit (List.mem_append_right _ member)

theorem read_toJson {snapshot : Snapshot} (readable : snapshot.IsReadable) :
    read snapshot.toJson = .ok snapshot := by
  rw [read, toJson_eq,
    Schema.IsLayout.readValues_record field?_name (by decide) (read_written readable)]
  rfl

theorem isPlain_written (snapshot : Snapshot) (field : Field) : (snapshot.written field).isPlain := by
  have commits : ∀ (list : List Commit), ∀ item ∈ list.map (·.toJson), item.isPlain := by
    intro list item written
    obtain ⟨commit, _, rfl⟩ := List.mem_map.mp written
    exact commit.isPlain_toJson
  cases field with
  | requested =>
    refine isPlain_list fun item written => ?_
    obtain ⟨secret, _, rfl⟩ := List.mem_map.mp written
    rfl
  | active => exact isPlain_list (commits snapshot.active)
  | revoked => exact isPlain_list (commits snapshot.revoked)
  | _ => exact isPlain_option (fun _ => rfl) _

theorem isPlain_toJson (snapshot : Snapshot) : snapshot.toJson.isPlain := by
  rw [toJson_eq]
  refine isPlain_record fun member written => ?_
  obtain ⟨field, _, rfl⟩ := List.mem_map.mp written
  exact snapshot.isPlain_written field

theorem ofText_toText {snapshot : Snapshot} (readable : snapshot.IsReadable) :
    ofText snapshot.toText = .ok snapshot := by
  rw [ofText, toText, readText, ofText_render snapshot.isPlain_toJson]
  simp only [read_toJson readable, bind, Except.bind, if_true]
  rfl

/-- Every snapshot is read from its own text, and what is restored of one has that snapshot, and so
the same text, again. -/
theorem stored_form_round_trips (snapshot : Snapshot) :
    (snapshot.IsReadable → ofText snapshot.toText = .ok snapshot) ∧
    ∀ state, snapshot.restore = .ok state →
      ofState state = snapshot ∧ (ofState state).toText = snapshot.toText := by
  refine ⟨ofText_toText, fun state restored => ?_⟩
  have same : ofState state = snapshot := by
    rw [(restore_eq_ok.mp restored).2, ofState_toState]
  exact ⟨same, congrArg toText same⟩

namespace Sample
open Channel.Sample

def witnessed : Transaction where
  version := 2
  inputs := [⟨⟨⟨List.replicate 32 9, rfl⟩, 1⟩, [0x51], 0xffffffff, [[], [1, 2, 3]]⟩]
  outputs := [⟨70, []⟩]
  lockTime := 0

def withoutInputs : Transaction := { witnessed with inputs := [] }

/-- The payee's side of a channel with one active and one revoked commit; some values are absent. -/
def kept : Snapshot where
  payerKey := none
  payeeKey := some ⟨1, payer, by decide +kernel⟩
  spendSecret := some ⟨[0]⟩
  depositScript := some deposit.toScript
  depositTransaction := some witnessed
  timeoutTransaction := none
  changeTransaction := some withoutInputs
  requested := [revokeSecret 3, ⟨[]⟩]
  active := [⟨.placeholder 1 10, (commit 1).toScript, none⟩]
  revoked := [⟨witnessed, (commit 2).toScript, some (revokeSecret 2)⟩]

end Sample

theorem stored_form_round_trips_kept :
    Sample.kept.IsReadable ∧ ofText Sample.kept.toText = .ok Sample.kept ∧
    Sample.kept.restore = .ok Sample.kept.toState ∧
    (ofState Sample.kept.toState).toText = Sample.kept.toText := by
  have readable : Sample.kept.IsReadable := by decide +kernel
  have passes : Sample.kept.check.isOk = true := by decide +kernel
  have restored : Sample.kept.restore = .ok Sample.kept.toState := by
    cases checked : Sample.kept.check with
    | error fault =>
      rw [checked] at passes
      cases passes
    | ok _ => exact restore_eq_ok.mpr ⟨checked, rfl⟩
  exact ⟨readable, (stored_form_round_trips Sample.kept).1 readable, restored,
    ((stored_form_round_trips Sample.kept).2 _ restored).2⟩

end Snapshot
end PaymentChannel
