/-! The opcodes of scripts by number: the ones that templates are made of, and the name of each. -/
namespace PaymentChannel.Opcode

def zero : UInt8 := 0x00
def pushData1 : UInt8 := 0x4c
def pushData2 : UInt8 := 0x4d
def pushData4 : UInt8 := 0x4e
def one : UInt8 := 0x51
def ifTrue : UInt8 := 0x63
def otherwise : UInt8 := 0x67
def endIf : UInt8 := 0x68
def drop : UInt8 := 0x75
def equalVerify : UInt8 := 0x88
def hash160 : UInt8 := 0xa9
def checkSig : UInt8 := 0xac
def checkMultiSig : UInt8 := 0xae
def checkSequenceVerify : UInt8 := 0xb2

/-- The opcode of the number `n`, from 1 to 16. -/
def number (n : Nat) : UInt8 := UInt8.ofNat (0x50 + n)

/-- The names from 0x61 on. -/
def operationNames : List String := [
  "NOP", "VER", "IF", "NOTIF", "VERIF", "VERNOTIF", "ELSE", "ENDIF", "VERIFY", "RETURN",
  "TOALTSTACK", "FROMALTSTACK", "2DROP", "2DUP", "3DUP", "2OVER", "2ROT", "2SWAP", "IFDUP",
  "DEPTH", "DROP", "DUP", "NIP", "OVER", "PICK", "ROLL", "ROT", "SWAP", "TUCK", "CAT", "SUBSTR",
  "LEFT", "RIGHT", "SIZE", "INVERT", "AND", "OR", "XOR", "EQUAL", "EQUALVERIFY", "RESERVED1",
  "RESERVED2", "1ADD", "1SUB", "2MUL", "2DIV", "NEGATE", "ABS", "NOT", "0NOTEQUAL", "ADD", "SUB",
  "MUL", "DIV", "MOD", "LSHIFT", "RSHIFT", "BOOLAND", "BOOLOR", "NUMEQUAL", "NUMEQUALVERIFY",
  "NUMNOTEQUAL", "LESSTHAN", "GREATERTHAN", "LESSTHANOREQUAL", "GREATERTHANOREQUAL", "MIN", "MAX",
  "WITHIN", "RIPEMD160", "SHA1", "SHA256", "HASH160", "HASH256", "CODESEPARATOR", "CHECKSIG",
  "CHECKSIGVERIFY", "CHECKMULTISIG", "CHECKMULTISIGVERIFY", "NOP1", "CLTV", "CSV", "NOP4", "NOP5",
  "NOP6", "NOP7", "NOP8", "NOP9", "NOP10", "CHECKSIGADD"]

/-- Opcodes past the last operation are returns, told apart by their numbers; 0xff is invalid. -/
def name (opcode : UInt8) : String :=
  let n := opcode.toNat
  if n ≤ 0x4b then s!"OP_PUSHBYTES_{n}"
  else if n = 0x4c then "OP_PUSHDATA1"
  else if n = 0x4d then "OP_PUSHDATA2"
  else if n = 0x4e then "OP_PUSHDATA4"
  else if n = 0x4f then "OP_PUSHNUM_NEG1"
  else if n = 0x50 then "OP_RESERVED"
  else if n ≤ 0x60 then s!"OP_PUSHNUM_{n - 0x50}"
  else if n = 0xff then "OP_INVALIDOPCODE"
  else
    match operationNames[n - 0x61]? with
    | some operation => "OP_" ++ operation
    | none => s!"OP_RETURN_{n}"

end PaymentChannel.Opcode
