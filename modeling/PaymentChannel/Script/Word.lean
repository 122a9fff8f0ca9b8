import PaymentChannel.Hex
import PaymentChannel.Script.Opcode

/-! Scripts as sequences of words: an opcode with the data it pushes. A script that ends inside a
push has the words before it and tells where it was cut; writing the words of a script gives back
the script up to the cut, and the words of well-formed words written down are those words. -/
namespace PaymentChannel

abbrev Script := Bytes

structure Word where
  opcode : UInt8
  data : Bytes
deriving DecidableEq

namespace Word

def op (opcode : UInt8) : Word := ⟨opcode, []⟩

/-- How many bytes after the opcode hold the length of its data. -/
def lengthWidth (opcode : UInt8) : Nat :=
  if opcode = Opcode.pushData1 then 1
  else if opcode = Opcode.pushData2 then 2
  else if opcode = Opcode.pushData4 then 4
  else 0

/-- The push of `data`, under the shortest opcode for its length. -/
def push (data : Bytes) : Word :=
  if data.length ≤ 0x4b then ⟨UInt8.ofNat data.length, data⟩
  else if data.length ≤ 0xff then ⟨Opcode.pushData1, data⟩
  else if data.length ≤ 0xffff then ⟨Opcode.pushData2, data⟩
  else ⟨Opcode.pushData4, data⟩

def encode (word : Word) : Bytes :=
  word.opcode :: Bytes.ofNatLE (lengthWidth word.opcode) word.data.length ++ word.data

def text (word : Word) : String :=
  let name := Opcode.name word.opcode
  if word.data.isEmpty then name else s!"{name} {Hex.encode word.data}"

/-- Whether a script can hold the word: its data are what its opcode calls for. -/
def IsWellFormed (word : Word) : Prop :=
  if word.opcode.toNat ≤ 0x4b then word.data.length = word.opcode.toNat
  else if word.opcode.toNat ≤ 0x4e then
    word.data.length < Bytes.capacity (lengthWidth word.opcode)
  else word.data = []

instance (word : Word) : Decidable word.IsWellFormed := by
  unfold IsWellFormed
  infer_instance

end Word

namespace Script

/-- How a walk over a script ends: at its end, inside the length of a push, or inside its data. -/
inductive Ending
  | complete
  | cutLength
  | cutData (opcode : UInt8)
deriving DecidableEq

/-- What stands at the front of a script that is not empty. -/
inductive Front
  | word (word : Word) (rest : Script)
  | cut (ending : Ending)

def takeData (opcode : UInt8) (length : Nat) (rest : Script) : Front :=
  let data := rest.take length
  if data.length = length then .word ⟨opcode, data⟩ (rest.drop length) else .cut (.cutData opcode)

def front (opcode : UInt8) (rest : Script) : Front :=
  if opcode.toNat ≤ 0x4b then takeData opcode opcode.toNat rest
  else
    let width := Word.lengthWidth opcode
    if width = 0 then .word (.op opcode) rest
    else
      let field := rest.take width
      if field.length = width then takeData opcode (Bytes.toNatLE field) (rest.drop width)
      else .cut .cutLength

theorem length_of_takeData {opcode : UInt8} {length : Nat} {rest after : Script} {word : Word}
    (h : takeData opcode length rest = .word word after) : after.length ≤ rest.length := by
  simp only [takeData] at h
  split at h
  · cases h
    simp
  · cases h

theorem length_of_front {opcode : UInt8} {rest after : Script} {word : Word}
    (h : front opcode rest = .word word after) : after.length ≤ rest.length := by
  simp only [front] at h
  split at h
  · exact length_of_takeData h
  · split at h
    · cases h
      exact Nat.le_refl _
    · split at h
      · have below := length_of_takeData h
        simp only [List.length_drop] at below
        omega
      · cases h

def walk : Script → List Word × Ending
  | [] => ([], .complete)
  | opcode :: rest =>
    match h : front opcode rest with
    | .cut ending => ([], ending)
    | .word word after =>
      have := length_of_front h
      let (words, ending) := walk after
      (word :: words, ending)
termination_by script => script.length

def words (script : Script) : List Word := (walk script).1

def ending (script : Script) : Ending := (walk script).2

/-- The words, and one more item for a push that is cut. -/
def itemCount (script : Script) : Nat :=
  (words script).length + (if ending script = .complete then 0 else 1)

def ofWords (words : List Word) : Script := words.flatMap Word.encode

end Script
end PaymentChannel
