import PaymentChannel.Curve.Key
import PaymentChannel.Hash.Digest
import PaymentChannel.Hash.Hmac

/-! Signatures over the curve: pairs of scalars below the group order. Signing takes its nonces from
a keyed digest of the secret key and the hash, so the same input gives the same signature; of the
two values of `s` that would do, the lower is given, and only it is accepted. -/
namespace PaymentChannel

structure Signature where
  r : Nat
  s : Nat
  r_lt : r < Curve.groupOrder
  s_lt : s < Curve.groupOrder
deriving DecidableEq

namespace Signature
open Curve Hash

def ofNats? (r s : Nat) : Option Signature :=
  if h : r < groupOrder ∧ s < groupOrder then some ⟨r, s, h.1, h.2⟩ else none

/-- The signature that verifies for no key and no hash. -/
def null : Signature := ⟨0, 0, by decide, by decide⟩

/-- Both scalars, in 32 bytes each. -/
def compact (sig : Signature) : Bytes := Bytes.ofNatBE 32 sig.r ++ Bytes.ofNatBE 32 sig.s

/-- The generator of nonces: a key and a value, both digests. -/
structure NonceState where
  key : Bytes
  value : Bytes

namespace NonceState

/-- Takes up `data` behind a separating byte. -/
def absorb (state : NonceState) (separator : UInt8) (data : Bytes) : NonceState :=
  let key := hmacSha256 state.key (state.value ++ separator :: data)
  ⟨key, hmacSha256 key state.value⟩

def start (seed : Bytes) : NonceState :=
  ((NonceState.mk (List.replicate 32 0) (List.replicate 32 1)).absorb 0 seed).absorb 1 seed

/-- The next candidate, and the state to go on with where it is refused. -/
def next (state : NonceState) : Nat × NonceState :=
  let value := hmacSha256 state.key state.value
  (Bytes.toNatBE value, NonceState.absorb ⟨state.key, value⟩ 0 [])

end NonceState

/-- The signature that a nonce gives, unless the nonce or one of the scalars is unusable. -/
def withNonce? (scalar message nonce : Nat) : Option Signature := do
  if nonce = 0 ∨ groupOrder ≤ nonce then none
  else
    let point ← (Jacobian.mul nonce basePoint).toAffine?
    let r := point.x % groupOrder
    let s := inverse groupOrder nonce * ((message + r * scalar) % groupOrder) % groupOrder
    if r = 0 ∨ s = 0 then none
    else ofNats? r (if groupOrder / 2 < s then groupOrder - s else s)

/-- The signature of the first usable candidate among `tries`. -/
def search (scalar message : Nat) : Nat → NonceState → Signature
  | 0, _ => null
  | tries + 1, state =>
    let (nonce, state) := state.next
    match withNonce? scalar message nonce with
    | some sig => sig
    | none => search scalar message tries state

/-- A candidate is unusable once in about `2 ^ 128` times, so the bound on them is never met. The
nonces hang on the hash modulo the group order, as the rest of the signature does. -/
def sign (key : SecretKey) (hash : Hash256) : Signature :=
  let message := Bytes.toNatBE hash.bytes % groupOrder
  search key.scalar message 256 (NonceState.start (key.toBytes ++ Bytes.ofNatBE 32 message))

/-- Whether the signature is one by the holder of `key` over `hash`, with the lower `s`. -/
def verify (key : PublicKey) (hash : Hash256) (sig : Signature) : Bool :=
  if sig.r = 0 ∨ sig.s = 0 ∨ groupOrder / 2 < sig.s then false
  else
    let inv := inverse groupOrder sig.s
    let u1 := Bytes.toNatBE hash.bytes * inv % groupOrder
    let u2 := sig.r * inv % groupOrder
    let sum := Jacobian.add (Jacobian.mul u1 basePoint)
      (Jacobian.mul u2 (Jacobian.ofAffine key.point))
    match sum.toAffine? with
    | some point => point.x % groupOrder == sig.r
    | none => false

end Signature
end PaymentChannel
