import PaymentChannel.Script.Word

/-! The text form of a script: its words, apart by one space. A script that ends inside a push says
so at its end: with the name of the opcode where the data are cut, and without a name, nor a space
before it, where the length is. -/
namespace PaymentChannel.Script

def assemblyName (opcode : UInt8) : String :=
  if opcode = Opcode.zero then "OP_0" else Opcode.name opcode

def assemblyWord (word : Word) : String :=
  let name := assemblyName word.opcode
  if word.data.isEmpty then name else s!"{name} {Hex.encode word.data}"

def assembly (script : Script) : String :=
  let (words, ending) := walk script
  let shown := words.map assemblyWord
  match ending with
  | .complete => " ".intercalate shown
  | .cutData opcode => " ".intercalate (shown ++ [s!"{assemblyName opcode} <push past end>"])
  | .cutLength => " ".intercalate shown ++ "<unexpected end>"

end PaymentChannel.Script
