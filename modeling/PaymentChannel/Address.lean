import PaymentChannel.Hash.Digest
import PaymentChannel.Script.Word

/-! Addresses of scripts: a version byte and the digest of the script, followed by a checksum and
written in base 58. The digits leave out the four characters that are easily mistaken, and each
leading zero byte is written as one zero digit. -/
namespace PaymentChannel

inductive Network
  | testnet
  | regtest
  | signet
  | bitcoin
deriving DecidableEq

namespace Network

def all : List Network := [.testnet, .regtest, .signet, .bitcoin]

def name : Network → String
  | .testnet => "testnet"
  | .regtest => "regtest"
  | .signet => "signet"
  | .bitcoin => "bitcoin"

def ofName? (name : String) : Option Network := all.find? (·.name == name)

/-- The networks for trials share a version. -/
def scriptVersion : Network → UInt8
  | .bitcoin => 0x05
  | _ => 0xc4

end Network

namespace Base58

def alphabet : List Char :=
  "123456789ABCDEFGHJKLMNPQRSTUVWXYZabcdefghijkmnopqrstuvwxyz".toList

def digit (n : Nat) : Char := alphabet.getD n '1'

/-- The digits of `n`, most significant first; none for zero. -/
def digits (n : Nat) : List Char := if n = 0 then [] else digits (n / 58) ++ [digit (n % 58)]
termination_by n
decreasing_by omega

def encode (bytes : Bytes) : String :=
  let zeros := bytes.takeWhile (· == 0)
  String.ofList (zeros.map (fun _ => digit 0) ++ digits (Bytes.toNatBE bytes))

/-- With the first four bytes of the double digest at the end. -/
def encodeChecked (payload : Bytes) : String := encode (payload ++ (hash256 payload).bytes.take 4)

end Base58

def Script.address (network : Network) (script : Script) : String :=
  Base58.encodeChecked (network.scriptVersion :: (hash160 script).bytes)

end PaymentChannel
