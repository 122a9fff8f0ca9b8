import PaymentChannel.Script.Word

/-! Numbers in scripts: little-endian magnitudes whose last byte has the sign in its highest bit,
with no byte more than that takes. Small ones have opcodes of their own. -/
namespace PaymentChannel.Script

/-- A non-negative number, with a zero byte added where the sign bit would be set. -/
def numberBytes (n : Nat) : Bytes :=
  let digits := Bytes.digitsLE n
  match digits.getLast? with
  | some last => if 0x80 ≤ last then digits ++ [0] else digits
  | none => []

def numberWord (n : Nat) : Word :=
  if n = 0 then .op Opcode.zero
  else if n ≤ 16 then .op (Opcode.number n)
  else .push (numberBytes n)

end PaymentChannel.Script
