import PaymentChannel.Channel.Summary
import PaymentChannel.CommandLine.Arguments
import PaymentChannel.Snapshot.Json

/-! The commands of the program and their answers. A command holds its parameters as they were
given; what they say is found out when it runs, the first that says nothing being reported. -/
namespace PaymentChannel

inductive Command
  | compileDeposit (payer payee spendHash : String) (expireTime : UInt16)
  | compileCommit (payer payee spendHash revokeHash : String) (delayTime : UInt16)
  | decodeDeposit (script : String)
  | decodeCommit (script : String)
  | hashSecret (secret : String)
  | inspectSnapshot (path : String)

/-- A command and the network whose addresses it shows. -/
structure Invocation where
  network : Network
  command : Command

namespace Invocation
open CommandLine

def ofArguments (arguments : Arguments) : Except Refusal Invocation :=
  let text (parameter : Parameter) := (arguments.values.lookup parameter).getD ""
  let timelock (parameter : Parameter) (default : UInt16) :=
    (arguments.values.lookup parameter >>= timelock?).getD default
  let network := (arguments.values.lookup .network >>= Network.ofName?).getD .regtest
  let config : Channel.Config := {}
  match arguments.level with
  | .depositCompile => .ok ⟨network, .compileDeposit (text .payerKey) (text .payeeKey)
      (text .spendHash) (timelock .expireTime config.expireTime)⟩
  | .commitCompile => .ok ⟨network, .compileCommit (text .payerKey) (text .payeeKey)
      (text .spendHash) (text .revokeHash) (timelock .delayTime config.delayTime)⟩
  | .depositDecode => .ok ⟨network, .decodeDeposit (text .argument)⟩
  | .commitDecode => .ok ⟨network, .decodeCommit (text .argument)⟩
  | .secretHash => .ok ⟨network, .hashSecret (text .argument)⟩
  | .snapshotInspect => .ok ⟨network, .inspectSnapshot (text .argument)⟩
  | .program | .deposit | .commit | .snapshot => .error .misuse

def ofWords (words : List String) : Except Refusal Invocation := do
  ofArguments (← Arguments.ofWords words)

end Invocation

namespace Command

/-- Why a command has no answer. -/
inductive Failure
  | invalid (what : String)
  | notHex (what : String) (cause : Hex.Error)
  | unreadableFile (path : String)
  | fault (cause : Fault)

def Failure.message : Failure → String
  | .invalid what => s!"invalid {what}"
  | .notHex what cause => s!"{what} is not hex: {cause.message}"
  | .unreadableFile path => s!"reading {path}"
  | .fault cause => cause.message

inductive Answer
  | compiled (script : Script)
  | depositTerms (terms : DepositTerms)
  | commitTerms (terms : CommitTerms)
  | digest (hash : Hash160)
  | inspected (summary : Channel.Summary)

namespace Answer

def toJson (network : Network) : Answer → Json
  | .compiled script => .record [
    ("script", .string (Hex.encode script)),
    ("asm", .string script.assembly),
    ("address", .string (script.address network))]
  | .depositTerms terms => terms.toJson
  | .commitTerms terms => terms.toJson
  | .digest hash => .record [("hash160", .string hash.toHex)]
  | .inspected summary => summary.toJson

/-- What is said of the template of a compiled script. -/
def templateName? : Answer → Option String
  | .compiled script =>
    match Template.ofScript script with
    | .ok template => some template.kind.name
    | .error _ => some "unknown"
  | _ => none

end Answer

/-- The file that a command reads. -/
def file? : Command → Option String
  | .inspectSnapshot path => some path
  | _ => none

def readKey (what text : String) : Except Failure PublicKey :=
  match PublicKey.ofHex? text with
  | some key => .ok key
  | none => .error (.invalid what)

def readHash (what text : String) : Except Failure Hash160 :=
  match Hash160.ofHex? text with
  | some hash => .ok hash
  | none => .error (.invalid what)

def readBytes (what text : String) : Except Failure Bytes :=
  (Hex.decodePrefixed text).mapError (.notHex what)

def readSummary (text : String) : Except Fault Channel.Summary := do
  let snapshot ← Snapshot.ofText text
  Channel.Summary.ofState (← snapshot.restore)

/-- The answer, given the text of the file that the command reads where it could be read. -/
def run (contents : Option String) : Command → Except Failure Answer
  | .compileDeposit payer payee spendHash expireTime => do
    let payer ← readKey "payer pubkey" payer
    let payee ← readKey "payee pubkey" payee
    let spendHash ← readHash "spend secret hash" spendHash
    return .compiled (DepositTerms.mk payer payee spendHash expireTime).toScript
  | .compileCommit payer payee spendHash revokeHash delayTime => do
    let payer ← readKey "payer pubkey" payer
    let payee ← readKey "payee pubkey" payee
    let spendHash ← readHash "spend secret hash" spendHash
    let revokeHash ← readHash "revoke secret hash" revokeHash
    return .compiled (CommitTerms.mk payer payee spendHash revokeHash delayTime).toScript
  | .decodeDeposit text => do
    let script ← readBytes "script" text
    let terms ← (DepositTerms.ofScript script).mapError .fault
    return .depositTerms terms
  | .decodeCommit text => do
    let script ← readBytes "script" text
    let terms ← (CommitTerms.ofScript script).mapError .fault
    return .commitTerms terms
  | .hashSecret text => do
    let secret ← readBytes "secret" text
    return .digest (Secret.mk secret).hash
  | .inspectSnapshot path =>
    match contents with
    | none => .error (.unreadableFile path)
    | some text => do
      let summary ← (readSummary text).mapError .fault
      return .inspected summary

end Command
end PaymentChannel
