import PaymentChannel.Transaction.Codec

/-! Transactions as text: the hexadecimal form of their bytes, which may follow a `0x`. -/
namespace PaymentChannel.Transaction

inductive TextError
  | badHex (cause : Hex.Error)
  | empty
  | undecodable
deriving DecidableEq

def TextError.message : TextError → String
  | .badHex cause => s!"bad hex: {cause.message}"
  | .empty => "empty transaction"
  | .undecodable => "bad transaction"

def ofText (text : String) : Except TextError Transaction :=
  match Hex.decodePrefixed text with
  | .error cause => .error (.badHex cause)
  | .ok bytes =>
    match decode? bytes with
    | some tx => .ok tx
    | none => .error .undecodable

/-- Where a transaction may be absent, an empty text is reported as such. -/
def ofTextNonempty (text : String) : Except TextError Transaction :=
  if text = "" then .error .empty else ofText text

end PaymentChannel.Transaction
