import PaymentChannel.Json.Document
import PaymentChannel.Template

/-! The terms of both templates as JSON: keys and digests in hexadecimal, timelocks as numbers. -/
namespace PaymentChannel

namespace Json

def publicKey? (json : Json) : Option PublicKey := json.text? >>= PublicKey.ofHex?

def hash160? (json : Json) : Option Hash160 := json.text? >>= Hash160.ofHex?

def sequence? (json : Json) : Option UInt16 :=
  (json.natBelow? (maxSequence + 1)).map UInt16.ofNat

end Json

namespace DepositTerms

def toJson (terms : DepositTerms) : Json := .record [
  ("payer_pubkey", .string terms.payer.toHex),
  ("payee_pubkey", .string terms.payee.toHex),
  ("spend_secret_hash", .string terms.spendHash.toHex),
  ("expire_time", .nat terms.expireTime.toNat)]

def ofJson? (json : Json) : Option DepositTerms := do
  match ← json.values? ["payer_pubkey", "payee_pubkey", "spend_secret_hash", "expire_time"] with
  | [payer, payee, spendHash, expireTime] =>
    return ⟨← payer.publicKey?, ← payee.publicKey?, ← spendHash.hash160?, ← expireTime.sequence?⟩
  | _ => none

end DepositTerms

namespace CommitTerms

def toJson (terms : CommitTerms) : Json := .record [
  ("payer_pubkey", .string terms.payer.toHex),
  ("payee_pubkey", .string terms.payee.toHex),
  ("spend_secret_hash", .string terms.spendHash.toHex),
  ("revoke_secret_hash", .string terms.revokeHash.toHex),
  ("delay_time", .nat terms.delayTime.toNat)]

def ofJson? (json : Json) : Option CommitTerms := do
  match ← json.values?
      ["payer_pubkey", "payee_pubkey", "spend_secret_hash", "revoke_secret_hash", "delay_time"] with
  | [payer, payee, spendHash, revokeHash, delayTime] =>
    return ⟨← payer.publicKey?, ← payee.publicKey?, ← spendHash.hash160?, ← revokeHash.hash160?,
      ← delayTime.sequence?⟩
  | _ => none

end CommitTerms

namespace Template

def toJson : Template → Json
  | .deposit terms => terms.toJson
  | .commit terms => terms.toJson

end Template
end PaymentChannel
