import PaymentChannel.Text.Unprintable

/-! Texts and characters in quotes, as messages show them. A quote of the kind that surrounds the
text, a backslash and anything unprintable are written as escapes; all else stands for itself. -/
namespace PaymentChannel.Text

def hexDigits (n : Nat) : List Char := Nat.toDigits 16 n

/-- One character between quotes of kind `quote`. -/
def escapeChar (quote c : Char) : List Char :=
  if c = '\t' then ['\\', 't']
  else if c = '\n' then ['\\', 'n']
  else if c = '\r' then ['\\', 'r']
  else if c = '\x00' then ['\\', '0']
  else if c = '\\' || c = quote then ['\\', c]
  else if isUnprintable c then
    '\\' :: 'u' :: Char.ofNat 0x7b :: hexDigits c.toNat ++ [Char.ofNat 0x7d]
  else [c]

def quoted (text : String) : String :=
  String.ofList ('"' :: text.toList.flatMap (escapeChar '"') ++ ['"'])

def quotedChar (c : Char) : String :=
  String.ofList ('\'' :: escapeChar '\'' c ++ ['\''])

end PaymentChannel.Text
