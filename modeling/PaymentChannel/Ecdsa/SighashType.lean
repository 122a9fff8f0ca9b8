/-! Which parts of a transaction a signature covers. Each kind has a byte, written after the
signature, and a name. -/
namespace PaymentChannel

inductive SighashType
  | all
  | none
  | single
  | allAnyoneCanPay
  | noneAnyoneCanPay
  | singleAnyoneCanPay
deriving DecidableEq

namespace SighashType

def toByte : SighashType → UInt8
  | .all => 0x01
  | .none => 0x02
  | .single => 0x03
  | .allAnyoneCanPay => 0x81
  | .noneAnyoneCanPay => 0x82
  | .singleAnyoneCanPay => 0x83

def ofByte? (byte : UInt8) : Option SighashType :=
  if byte = 0x01 then some .all
  else if byte = 0x02 then some .none
  else if byte = 0x03 then some .single
  else if byte = 0x81 then some .allAnyoneCanPay
  else if byte = 0x82 then some .noneAnyoneCanPay
  else if byte = 0x83 then some .singleAnyoneCanPay
  else Option.none

def name : SighashType → String
  | .all => "All"
  | .none => "None"
  | .single => "Single"
  | .allAnyoneCanPay => "AllPlusAnyoneCanPay"
  | .noneAnyoneCanPay => "NonePlusAnyoneCanPay"
  | .singleAnyoneCanPay => "SinglePlusAnyoneCanPay"

@[simp] theorem ofByte?_toByte (kind : SighashType) : ofByte? kind.toByte = some kind := by
  cases kind <;> rfl

theorem toByte_of_ofByte? {byte : UInt8} {kind : SighashType} (h : ofByte? byte = some kind) :
    kind.toByte = byte := by
  simp only [ofByte?] at h
  repeat' split at h
  all_goals cases h
  all_goals (rename_i same; exact same.symm)

end SighashType
end PaymentChannel
