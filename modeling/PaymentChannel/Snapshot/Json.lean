import PaymentChannel.Json.Record
import PaymentChannel.Json.Render
import PaymentChannel.Snapshot

/-! The stored text of a snapshot: one JSON object with no blanks, the fields in a fixed order and
byte strings in hexadecimal. Reading needs each field once, also one that is null, in any order. -/
namespace PaymentChannel

abbrev StoredReader := Json.Reader Transaction.TextError

namespace StoredReader
open Json

def script : StoredReader Script := Reader.parsed fun text => (Hex.decode text).toOption

def secret : StoredReader Secret := Reader.parsed Secret.ofHex?

def secretKey : StoredReader SecretKey := Reader.parsed SecretKey.ofHex?

def transaction : StoredReader Transaction := Reader.judged Transaction.ofText

def optionalTransaction : StoredReader (Option Transaction) :=
  Reader.optional (Reader.judged Transaction.ofTextNonempty)

end StoredReader

namespace Channel.Commit

inductive Field
  | transaction
  | script
  | revokeSecret
deriving DecidableEq

def schema : Json.Schema Transaction.TextError where
  Field := Field
  fields := [.transaction, .script, .revokeSecret]
  complete field := by cases field <;> decide
  name
    | .transaction => "transaction"
    | .script => "script"
    | .revokeSecret => "revoke_secret"
  Value
    | .transaction => Transaction
    | .script => Script
    | .revokeSecret => Option Secret
  read
    | .transaction => StoredReader.transaction
    | .script => StoredReader.script
    | .revokeSecret => Json.Reader.optional StoredReader.secret

def ofValues (values : schema.Values) : Commit where
  transaction := values .transaction
  script := values .script
  revokeSecret := values .revokeSecret

def read : StoredReader Commit := fun json => ofValues <$> schema.readValues json

def toJson (commit : Commit) : Json := .record [
  ("transaction", .string commit.transaction.toHex),
  ("script", .string (Hex.encode commit.script)),
  ("revoke_secret", .option (.string ·.toHex) commit.revokeSecret)]

end Channel.Commit

namespace Snapshot
open Channel (Commit)

inductive Field
  | payerKey
  | payeeKey
  | spendSecret
  | depositScript
  | depositTransaction
  | timeoutTransaction
  | changeTransaction
  | requested
  | active
  | revoked
deriving DecidableEq

def schema : Json.Schema Transaction.TextError where
  Field := Field
  fields := [.payerKey, .payeeKey, .spendSecret, .depositScript, .depositTransaction,
    .timeoutTransaction, .changeTransaction, .requested, .active, .revoked]
  complete field := by cases field <;> decide
  name
    | .payerKey => "payer_key"
    | .payeeKey => "payee_key"
    | .spendSecret => "spend_secret"
    | .depositScript => "deposit_script"
    | .depositTransaction => "deposit_tx"
    | .timeoutTransaction => "timeout_tx"
    | .changeTransaction => "change_tx"
    | .requested => "commits_requested"
    | .active => "commits_active"
    | .revoked => "commits_revoked"
  Value
    | .payerKey | .payeeKey => Option SecretKey
    | .spendSecret => Option Secret
    | .depositScript => Option Script
    | .depositTransaction | .timeoutTransaction | .changeTransaction => Option Transaction
    | .requested => List Secret
    | .active | .revoked => List Commit
  read
    | .payerKey | .payeeKey => Json.Reader.optional StoredReader.secretKey
    | .spendSecret => Json.Reader.optional StoredReader.secret
    | .depositScript => Json.Reader.optional StoredReader.script
    | .depositTransaction | .timeoutTransaction | .changeTransaction =>
      StoredReader.optionalTransaction
    | .requested => Json.Reader.list StoredReader.secret
    | .active | .revoked => Json.Reader.list Commit.read

def ofValues (values : schema.Values) : Snapshot where
  payerKey := values .payerKey
  payeeKey := values .payeeKey
  spendSecret := values .spendSecret
  depositScript := values .depositScript
  depositTransaction := values .depositTransaction
  timeoutTransaction := values .timeoutTransaction
  changeTransaction := values .changeTransaction
  requested := values .requested
  active := values .active
  revoked := values .revoked

def read : StoredReader Snapshot := fun json => ofValues <$> schema.readValues json

def toJson (snapshot : Snapshot) : Json := .record [
  ("payer_key", .option (.string ·.toHex) snapshot.payerKey),
  ("payee_key", .option (.string ·.toHex) snapshot.payeeKey),
  ("spend_secret", .option (.string ·.toHex) snapshot.spendSecret),
  ("deposit_script", .option (.string <| Hex.encode ·) snapshot.depositScript),
  ("deposit_tx", .option (.string ·.toHex) snapshot.depositTransaction),
  ("timeout_tx", .option (.string ·.toHex) snapshot.timeoutTransaction),
  ("change_tx", .option (.string ·.toHex) snapshot.changeTransaction),
  ("commits_requested", .list (snapshot.requested.map (.string ·.toHex))),
  ("commits_active", .list (snapshot.active.map (·.toJson))),
  ("commits_revoked", .list (snapshot.revoked.map (·.toJson)))]

def toText (snapshot : Snapshot) : String := snapshot.toJson.render

def ofText (text : String) : Except Fault Snapshot :=
  match Json.readText read text with
  | .ok snapshot => .ok snapshot
  | .error cause => .error (.unreadableSnapshot cause)

end Snapshot
end PaymentChannel
