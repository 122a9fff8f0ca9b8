import PaymentChannel.Ecdsa.Signature
import PaymentChannel.Ecdsa.SighashType

/-! Signatures as scripts hold them: a DER sequence of two integers, then the byte of the sighash
type. Lengths and paddings are read strictly; an integer that is negative or not below the group
order is read as zero. -/
namespace PaymentChannel

namespace Signature
open Curve

namespace Der

/-- The least number of bytes of `n`, most significant first, whose first bit is clear. -/
def natBytes (n : Nat) : Bytes :=
  match (Bytes.digitsLE n).reverse with
  | [] => [0]
  | b :: rest => if 0x80 ≤ b then 0 :: b :: rest else b :: rest

def integer (n : Nat) : Bytes :=
  let bytes := natBytes n
  0x02 :: UInt8.ofNat bytes.length :: bytes

def encode (sig : Signature) : Bytes :=
  let body := integer sig.r ++ integer sig.s
  0x30 :: UInt8.ofNat body.length :: body

/-- A length, which has to be in its shortest form and within the rest, and the rest. -/
def readLength : Bytes → Option (Nat × Bytes)
  | [] => none
  | b :: rest =>
    if b < 0x80 then some (b.toNat, rest)
    else if b = 0x80 ∨ b = 0xff then none
    else
      let count := b.toNat - 0x80
      let field := rest.take count
      let after := rest.drop count
      let length := Bytes.toNatBE field
      if field.length = count ∧ field.head? ≠ some 0 ∧ count ≤ 8 ∧ 128 ≤ length ∧
          length ≤ after.length then
        some (length, after)
      else none

/-- Whether a first byte of only sign bits could have been left out. -/
def isPadded : Bytes → Bool
  | first :: second :: _ => (first == 0 && second < 0x80) || (first == 0xff && 0x80 ≤ second)
  | _ => false

def scalar (body : Bytes) : Nat :=
  let n := Bytes.toNatBE body
  if body.headD 0 < 0x80 ∧ n < groupOrder then n else 0

theorem scalar_lt (body : Bytes) : scalar body < groupOrder := by
  simp only [scalar]
  split
  · rename_i h
    exact h.2
  · decide

def readInteger : Bytes → Option (Bytes × Bytes)
  | [] => none
  | tag :: rest =>
    if tag = 0x02 then
      match readLength rest with
      | none => none
      | some (length, rest) =>
        let body := rest.take length
        if length ≠ 0 ∧ body.length = length ∧ isPadded body = false then
          some (body, rest.drop length)
        else none
    else none

def decode? : Bytes → Option Signature
  | [] => none
  | tag :: rest =>
    if tag = 0x30 then
      match readLength rest with
      | none => none
      | some (length, rest) =>
        if rest.length = length then
          match readInteger rest with
          | none => none
          | some (r, rest) =>
            match readInteger rest with
            | some (s, []) => some ⟨scalar r, scalar s, scalar_lt r, scalar_lt s⟩
            | _ => none
        else none
    else none

end Der

/-- The form in scripts. -/
def toScriptBytes (sig : Signature) (kind : SighashType) : Bytes := Der.encode sig ++ [kind.toByte]

def ofScriptBytes? (bytes : Bytes) : Option (Signature × SighashType) :=
  match bytes.getLast? with
  | none => none
  | some last =>
    match SighashType.ofByte? last, Der.decode? bytes.dropLast with
    | some kind, some sig => some (sig, kind)
    | _, _ => none

/-- Reads a signature that must be of the given sighash type. -/
def ofScriptBytesAs? (bytes : Bytes) (kind : SighashType) : Option Signature :=
  match ofScriptBytes? bytes with
  | some (sig, found) => if found = kind then some sig else none
  | none => none

end Signature
end PaymentChannel
