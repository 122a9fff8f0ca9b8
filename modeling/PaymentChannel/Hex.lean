import PaymentChannel.Text.Quoted
import PaymentChannel.Text.Utf8

/-! Hexadecimal text. Bytes are written as two lower-case digits each and read in either case. What
cannot be read is reported by its cause: an odd number of digits first, then the leftmost byte of
the text that is no digit. -/
namespace PaymentChannel.Hex

inductive Error
  | oddLength
  | badDigit (byte : UInt8) (position : Nat)
deriving DecidableEq

/-- A byte that is no digit is shown as the character of that number. -/
def Error.message : Error → String
  | .oddLength => "Odd number of digits"
  | .badDigit byte position =>
    s!"Invalid character {Text.quotedChar (Char.ofNat byte.toNat)} at position {position}"

def digit (n : Nat) : Char :=
  if n < 10 then Char.ofNat (48 + n) else Char.ofNat (87 + n)

def encodeBytes (bytes : Bytes) : List Char :=
  bytes.flatMap fun b => [digit (b.toNat / 16), digit (b.toNat % 16)]

def encode (bytes : Bytes) : String := String.ofList (encodeBytes bytes)

def nibble (b : UInt8) : Option Nat :=
  if 48 ≤ b ∧ b ≤ 57 then some (b.toNat - 48)
  else if 65 ≤ b ∧ b ≤ 70 then some (b.toNat - 55)
  else if 97 ≤ b ∧ b ≤ 102 then some (b.toNat - 87)
  else none

def decodePairs (position : Nat) : Bytes → Except Error Bytes
  | high :: low :: rest =>
    match nibble high, nibble low with
    | some h, some l =>
      match decodePairs (position + 2) rest with
      | .ok tail => .ok (UInt8.ofNat (16 * h + l) :: tail)
      | .error e => .error e
    | none, _ => .error (.badDigit high position)
    | some _, none => .error (.badDigit low (position + 1))
  | _ => .ok []

def decodeDigits (digits : Bytes) : Except Error Bytes :=
  if digits.length % 2 = 1 then .error .oddLength else decodePairs 0 digits

def decode (text : String) : Except Error Bytes := decodeDigits (Text.utf8 text)

/-- What follows one leading `0x`, or the whole text where there is none. -/
def unprefixed : List Char → List Char
  | '0' :: 'x' :: rest => rest
  | chars => chars

/-- Positions in errors count from after the `0x`. -/
def decodePrefixed (text : String) : Except Error Bytes :=
  decode (String.ofList (unprefixed text.toList))

/-- The bytes, where the text is that of exactly `length` of them. -/
def decodeExactly (length : Nat) (text : String) : Option Bytes :=
  match decode text with
  | .ok bytes => if bytes.length = length then some bytes else none
  | .error _ => none

private theorem nibble_digit : ∀ n < 16, nibble (UInt8.ofNat (digit n).toNat) = some n := by
  decide

private theorem utf8_digit : ∀ n < 16,
    String.utf8EncodeChar (digit n) = [UInt8.ofNat (digit n).toNat] := by
  decide

private theorem decodePairs_encodeBytes (position : Nat) (bytes : Bytes) :
    decodePairs position ((encodeBytes bytes).flatMap String.utf8EncodeChar) = .ok bytes := by
  induction bytes generalizing position with
  | nil => rfl
  | cons b rest ih =>
    have small : b.toNat < 256 := b.toNat_lt
    have whole : 16 * (b.toNat / 16) + b.toNat % 16 = b.toNat := by omega
    have tail := ih (position + 2)
    simp only [encodeBytes] at tail
    simp only [encodeBytes, List.flatMap_cons, utf8_digit _ (show b.toNat / 16 < 16 by omega),
      utf8_digit _ (show b.toNat % 16 < 16 by omega), List.cons_append, List.nil_append,
      decodePairs, nibble_digit _ (show b.toNat / 16 < 16 by omega),
      nibble_digit _ (show b.toNat % 16 < 16 by omega), whole, UInt8.ofNat_toNat, tail]

private theorem length_utf8_encodeBytes (bytes : Bytes) :
    ((encodeBytes bytes).flatMap String.utf8EncodeChar).length = 2 * bytes.length := by
  induction bytes with
  | nil => rfl
  | cons b rest ih =>
    have small : b.toNat < 256 := b.toNat_lt
    simp only [encodeBytes] at ih
    simp only [encodeBytes, List.flatMap_cons, utf8_digit _ (show b.toNat / 16 < 16 by omega),
      utf8_digit _ (show b.toNat % 16 < 16 by omega), List.cons_append, List.nil_append,
      List.length_cons, ih]
    omega

@[simp] theorem decode_encode (bytes : Bytes) : decode (encode bytes) = .ok bytes := by
  have even : ¬ ((encodeBytes bytes).flatMap String.utf8EncodeChar).length % 2 = 1 := by
    rw [length_utf8_encodeBytes]
    omega
  rw [decode, encode, Text.utf8, String.toList_ofList, decodeDigits, if_neg even,
    decodePairs_encodeBytes]

end PaymentChannel.Hex
