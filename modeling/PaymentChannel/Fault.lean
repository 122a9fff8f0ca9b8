import PaymentChannel.Curve.Key
import PaymentChannel.Ecdsa.SighashType
import PaymentChannel.Json.Record
import PaymentChannel.Oracle
import PaymentChannel.Report
import PaymentChannel.Script.Assembly
import PaymentChannel.Transaction.Text

/-! Why an operation on scripts, witnesses, channels or snapshots was refused: one case for each
cause, holding what its message tells. -/
namespace PaymentChannel

inductive TemplateKind
  | deposit
  | commit
deriving DecidableEq

def TemplateKind.name : TemplateKind → String
  | .deposit => "deposit"
  | .commit => "commit"

inductive SpendPath
  | timeout
  | change
  | createCommit
  | finalizeCommit
  | payout
  | revoke
deriving DecidableEq

def SpendPath.name : SpendPath → String
  | .timeout => "timeout"
  | .change => "change"
  | .createCommit => "create_commit"
  | .finalizeCommit => "finalize_commit"
  | .payout => "payout"
  | .revoke => "revoke"

inductive Fault
  | wordCut (index : Nat)
  | wordOutOfRange (index : Nat)
  | notPublicKey (index : Nat) (word : Word)
  | notHash160 (index : Nat) (word : Word)
  | notSequence (word : Word)
  | sequenceTooLong (length : Nat)
  | sequenceTooLarge (value : Nat)
  | notDeposit (script : Script)
  | notCommit (script : Script)
  | noTemplate (script : Script)
  | pushTooLong (length : Nat)
  | noSecretKey (key : PublicKey)
  | wrongTemplate (path : SpendPath) (template : TemplateKind)
  | changeSecretMismatch (hash : Hash160)
  | witnessStart
  | witnessShape
  | payerSignatureMalformed
  | payerSignatureType (found expected : SighashType)
  | payerSignatureInvalid
  | oracle (error : OracleError)
  | noDepositScript
  | noDepositTransaction
  | noTimeoutTransaction
  | noChangeTransaction
  | noSpendSecret
  | notRevoked (txid : Txid)
  | neitherParty
  | notPayer
  | keyMismatch (key expected : PublicKey)
  | depositAlreadySet
  | depositSecretMismatch (hash : Hash160)
  | commitKeysMismatch
  | commitSpendHashMismatch (found expected : Hash160)
  | revokeHashUsed (hash : Hash160)
  | notAboveTransferred (quantity transferred : UInt64)
  | aboveTotal (quantity total : UInt64)
  | transferredAboveTotal (transferred total : UInt64)
  | duplicateQuantity (quantity : UInt64)
  | zeroQuantity
  | loadedAboveTotal (highest total : UInt64)
  | unreadableSnapshot (cause : Json.ReadError Transaction.TextError)
  | storedDeposit (cause : Fault)
  | storedCommit (cause : Fault)
  | storedSecretMismatch (hash : Hash160)

namespace Fault

def kind : Fault → Report.Kind
  | wordCut _ | wordOutOfRange _ | notPublicKey .. | notHash160 .. | notSequence _ | pushTooLong _
  | witnessStart | witnessShape => .scriptFormat
  | sequenceTooLong _ | sequenceTooLarge _ => .timelockRange
  | notDeposit _ | notCommit _ | noTemplate _ | wrongTemplate .. | changeSecretMismatch _
  | keyMismatch .. | depositAlreadySet | depositSecretMismatch _ | commitKeysMismatch
  | commitSpendHashMismatch .. | revokeHashUsed _ => .mismatch
  | noSecretKey _ | neitherParty | notPayer => .undefinedRole
  | payerSignatureMalformed | payerSignatureType .. | payerSignatureInvalid =>
    .signatureVerification
  | oracle _ => .oracleUnavailable
  | noDepositScript | noDepositTransaction | noTimeoutTransaction | noChangeTransaction
  | noSpendSecret | notRevoked _ => .missingState
  | notAboveTransferred .. | aboveTotal .. | transferredAboveTotal .. | duplicateQuantity _
  | zeroQuantity | loadedAboveTotal .. => .transferQuantity
  | unreadableSnapshot _ | storedDeposit _ | storedCommit _ | storedSecretMismatch _ => .snapshot

def message : Fault → String
  | wordCut index => s!"get_word: unparseable opcode at word {index}: EarlyEndOfScript"
  | wordOutOfRange index => s!"get_word: word {index} out of range"
  | notPublicKey index word => s!"parse_pubkey: word {index} is not a public key: {word.text}"
  | notHash160 index word => s!"parse_hash160: word {index} is not a hash160: {word.text}"
  | notSequence word => s!"parse_sequence_value: invalid sequence value: {word.text}"
  | sequenceTooLong length => s!"parse_sequence_value: {length} byte push exceeds 65535"
  | sequenceTooLarge value => s!"parse_sequence_value: {value} > 65535"
  | notDeposit script =>
    s!"decompile_deposit_script: not a deposit script: {Script.assembly script}"
  | notCommit script =>
    s!"decompile_commit_script: not a commit script: {Script.assembly script}"
  | noTemplate script => s!"from_script: unknown script template: {Script.assembly script}"
  | pushTooLong length => s!"push_data: {length} bytes"
  | noSecretKey key => s!"sign: no secret key for {key.toHex}"
  | wrongTemplate path template =>
    s!"solve: {path.name} does not spend a {template.name} script"
  | changeSecretMismatch hash => s!"solve_change: spend secret does not hash to {hash.toHex}"
  | witnessStart => "solve_finalize_commit: existing witness does not start with OP_0"
  | witnessShape => "solve_finalize_commit: existing witness is not OP_0 <sig> <sig> OP_1"
  | payerSignatureMalformed => "solve_finalize_commit: bad payer sig: malformed signature"
  | payerSignatureType found expected =>
    s!"solve_finalize_commit: payer sighash type {found.name} != {expected.name}"
  | payerSignatureInvalid => "solve_finalize_commit: invalid payer signature"
  | oracle error => error.message
  | noDepositScript => "deposit_script: no deposit script"
  | noDepositTransaction => "deposit_tx: no deposit transaction"
  | noTimeoutTransaction => "timeout_confirms: no timeout transaction"
  | noChangeTransaction => "change_confirms: no change transaction"
  | noSpendSecret => "spend_secret: spend secret not known"
  | notRevoked txid => s!"sign_revoke: commit {txid.toReversedHex} not revoked"
  | neitherParty => "spend_secret_hash: not payee or payer"
  | notPayer => "make_deposit_script: not payer"
  | keyMismatch key expected =>
    s!"check_key: key {key.toHex} does not match deposit key {expected.toHex}"
  | depositAlreadySet => "set_deposit: deposit already set to a different value"
  | depositSecretMismatch hash => s!"set_deposit: spend secret does not hash to {hash.toHex}"
  | commitKeysMismatch => "add_active_commit: commit keys do not match the deposit"
  | commitSpendHashMismatch found expected =>
    s!"add_active_commit: commit spend secret hash {found.toHex} != {expected.toHex}"
  | revokeHashUsed hash => s!"add_active_commit: revoke secret hash {hash.toHex} already used"
  | notAboveTransferred quantity transferred =>
    s!"validate_transfer_quantity: amount not greater transferred: {quantity} <= {transferred}"
  | aboveTotal quantity total =>
    s!"validate_transfer_quantity: amount greater total: {quantity} > {total}"
  | transferredAboveTotal transferred total =>
    s!"get_deposit_remaining: transferred greater total: {transferred} > {total}"
  | duplicateQuantity quantity => s!"load: duplicate active quantity {quantity}"
  | zeroQuantity => "load: zero active quantity"
  | loadedAboveTotal highest total =>
    s!"load: active quantity greater total: {highest} > {total}"
  | unreadableSnapshot cause => s!"from_json: {cause.message Transaction.TextError.message}"
  | storedDeposit cause => s!"deposit script: {cause.kind.heading}{cause.message}"
  | storedCommit cause => s!"commit script: {cause.kind.heading}{cause.message}"
  | storedSecretMismatch hash => s!"revoke secret does not hash to {hash.toHex}"

def report (fault : Fault) : Report := ⟨fault.kind, fault.message⟩

end Fault
end PaymentChannel
