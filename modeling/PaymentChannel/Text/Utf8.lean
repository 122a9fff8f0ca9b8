import PaymentChannel.Bytes

/-! The UTF-8 form of a text, as a byte string. Positions in error messages and the order of stored
names are taken from it. -/
namespace PaymentChannel.Text

def utf8 (text : String) : Bytes := text.toList.flatMap String.utf8EncodeChar

@[simp] theorem utf8_append (a b : String) : utf8 (a ++ b) = utf8 a ++ utf8 b := by
  simp [utf8]

end PaymentChannel.Text
