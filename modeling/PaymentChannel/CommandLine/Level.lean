import PaymentChannel.Address
import PaymentChannel.Template.Field

/-! The levels of the command line: the program, its groups of commands and the commands, with the
options that each takes, its argument and the levels below it. -/
namespace PaymentChannel.CommandLine

/-- A timelock in decimal digits, which may have a sign and leading zeros. -/
def timelock? (text : String) : Option UInt16 :=
  let (negative, digits) := match text.toList with
    | '-' :: rest => (true, rest)
    | '+' :: rest => (false, rest)
    | chars => (false, chars)
  let n := digits.foldl (fun n c => 10 * n + (c.toNat - '0'.toNat)) 0
  if digits.isEmpty || !digits.all Char.isDigit then none
  else if maxSequence < n || (negative && n != 0) then none
  else some (UInt16.ofNat n)

inductive Parameter
  | network
  | logDirectory
  | payerKey
  | payeeKey
  | spendHash
  | revokeHash
  | expireTime
  | delayTime
  /-- What is given without the name of an option. -/
  | argument
deriving DecidableEq

namespace Parameter

/-- The name after two dashes. -/
def long? : Parameter → Option String
  | .network => some "network"
  | .logDirectory => some "datadir"
  | .payerKey => some "payer-pubkey"
  | .payeeKey => some "payee-pubkey"
  | .spendHash => some "spend-secret-hash"
  | .revokeHash => some "revoke-secret-hash"
  | .expireTime => some "expire-time"
  | .delayTime => some "delay-time"
  | .argument => none

/-- The letter after one dash. -/
def letter? : Parameter → Option Char
  | .network => some 'n'
  | _ => none

def isRequired : Parameter → Bool
  | .payerKey | .payeeKey | .spendHash | .revokeHash | .argument => true
  | .network | .logDirectory | .expireTime | .delayTime => false

end Parameter

inductive Level
  | program
  | deposit
  | depositCompile
  | depositDecode
  | commit
  | commitCompile
  | commitDecode
  | secretHash
  | snapshot
  | snapshotInspect
deriving DecidableEq

namespace Level

def parameters : Level → List Parameter
  | .program => [.network, .logDirectory]
  | .depositCompile => [.payerKey, .payeeKey, .spendHash, .expireTime]
  | .commitCompile => [.payerKey, .payeeKey, .spendHash, .revokeHash, .delayTime]
  | .depositDecode | .commitDecode | .secretHash | .snapshotInspect => [.argument]
  | .deposit | .commit | .snapshot => []

/-- The levels below, by the word that leads there. -/
def commands : Level → List (String × Level)
  | .program => [("deposit", .deposit), ("commit", .commit), ("secret-hash", .secretHash),
    ("snapshot", .snapshot)]
  | .deposit => [("compile", .depositCompile), ("decode", .depositDecode)]
  | .commit => [("compile", .commitCompile), ("decode", .commitDecode)]
  | .snapshot => [("inspect", .snapshotInspect)]
  | _ => []

/-- The options that ask for information and end the program. -/
def flags : Level → List (String × Char)
  | .program => [("help", 'h'), ("version", 'V')]
  | _ => [("help", 'h')]

/-- Whether a value can be one of a parameter, as far as that is known before the command runs. -/
def accepts (level : Level) (parameter : Parameter) (value : String) : Bool :=
  match parameter with
  | .network => (Network.ofName? value).isSome
  | .logDirectory => value != ""
  | .expireTime | .delayTime => (timelock? value).isSome
  | .argument => level != .snapshotInspect || value != ""
  | _ => true

end Level
end PaymentChannel.CommandLine
