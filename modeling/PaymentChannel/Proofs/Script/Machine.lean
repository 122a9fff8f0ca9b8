import PaymentChannel.Ecdsa.Encoding
import PaymentChannel.Proofs.Script.Walk

/-! How a network node runs scripts, for the opcodes of the templates. A script is run word by word
on a stack of byte strings; words in a branch that is not taken do nothing but keep track of the
branches inside. An output is spent when its script, run on the stack that the witness leaves, ends
with exactly one element, and that one is true. Sizes are not limited. -/
namespace PaymentChannel.Machine

/-- What a script asks of the spending input: the digest that signatures are over, and the age in
blocks of the output spent. -/
structure Context where
  sighash : Hash256
  age : Nat

/-- An element is false where its bytes are all zero, or all but for the sign of the last. -/
def asBool : Bytes → Bool
  | [] => false
  | [last] => last != 0 && last != 0x80
  | first :: rest => first != 0 || asBool rest

def ofBool (b : Bool) : Bytes := if b then [1] else []

/-- The number that an element stands for: a magnitude, least significant byte first, with the sign
in the highest bit of the last byte. -/
def number (element : Bytes) : Int :=
  let magnitude := Bytes.toNatLE element
  match element.getLast? with
  | some last =>
    if 0x80 ≤ last then
      -(magnitude - 0x80 * Bytes.capacity (element.length - 1) : Int)
    else magnitude
  | none => 0

example : number [0x80] = 0 ∧ number [0x80, 0] = 128 ∧ number [0xff, 0x80] = -255 := by decide

def isSignedBy (context : Context) (key sig : Bytes) : Bool :=
  match PublicKey.ofBytes? key, Signature.ofScriptBytes? sig with
  | some key, some (sig, _) => sig.verify key context.sighash
  | _, _ => false

/-- Whether every signature is by one of the keys, in the same order. -/
def areSignedInOrder (context : Context) : List Bytes → List Bytes → Bool
  | [], _ => true
  | _ :: _, [] => false
  | sig :: sigs, key :: keys =>
    if isSignedBy context key sig then areSignedInOrder context sigs keys
    else areSignedInOrder context (sig :: sigs) keys

/-- A number from the top of the stack, then that many elements. -/
def takeCounted : List Bytes → Option (List Bytes × List Bytes)
  | [] => none
  | top :: rest =>
    let count := number top
    if 0 ≤ count ∧ count ≤ rest.length then some (rest.splitAt count.toNat) else none

/-- Takes the keys, then the signatures, then one more element, which has to be empty. -/
def checkMultiSig (context : Context) (stack : List Bytes) : Option (List Bytes) := do
  let (keys, rest) ← takeCounted stack
  let (sigs, rest) ← takeCounted rest
  match rest with
  | [] :: rest =>
    if sigs.length ≤ keys.length then some (ofBool (areSignedInOrder context sigs keys) :: rest)
    else none
  | _ => none

/-- What a word that is no branch does to the stack; none where the script fails. -/
def execute (context : Context) (word : Word) (stack : List Bytes) : Option (List Bytes) :=
  let opcode := word.opcode
  if opcode.toNat ≤ 0x4e then some (word.data :: stack)
  else if Opcode.one ≤ opcode ∧ opcode.toNat ≤ 0x60 then
    some ([UInt8.ofNat (opcode.toNat - 0x50)] :: stack)
  else if opcode = Opcode.drop then
    match stack with
    | _ :: rest => some rest
    | [] => none
  else if opcode = Opcode.hash160 then
    match stack with
    | top :: rest => some ((hash160 top).bytes :: rest)
    | [] => none
  else if opcode = Opcode.equalVerify then
    match stack with
    | first :: second :: rest => if first = second then some rest else none
    | _ => none
  else if opcode = Opcode.checkSig then
    match stack with
    | key :: sig :: rest => some (ofBool (isSignedBy context key sig) :: rest)
    | _ => none
  else if opcode = Opcode.checkMultiSig then checkMultiSig context stack
  else if opcode = Opcode.checkSequenceVerify then
    match stack with
    | top :: rest => if 0 ≤ number top ∧ number top ≤ context.age then some (top :: rest) else none
    | [] => none
  else none

/-- The stack, its top first, and whether each branch that the run is inside of is taken, the
innermost first. -/
structure State where
  stack : List Bytes
  branches : List Bool := []

def step (context : Context) (state : State) (word : Word) : Option State :=
  let taken := state.branches.all id
  if word.opcode = Opcode.ifTrue then
    if taken then
      match state.stack with
      | top :: rest => some ⟨rest, asBool top :: state.branches⟩
      | [] => none
    else some { state with branches := false :: state.branches }
  else if word.opcode = Opcode.otherwise then
    match state.branches with
    | branch :: outer => some { state with branches := (!branch) :: outer }
    | [] => none
  else if word.opcode = Opcode.endIf then
    match state.branches with
    | _ :: outer => some { state with branches := outer }
    | [] => none
  else if taken then (execute context word state.stack).map fun stack => { state with stack }
  else some state

def run (context : Context) (words : List Word) (state : State) : Option State :=
  words.foldlM (step context) state

/-- The stack that a script leaves. A script may not end inside a push or a branch. -/
def runScript (context : Context) (script : Script) (stack : List Bytes) : Option (List Bytes) :=
  match Script.walk script with
  | (words, .complete) =>
    match run context words { stack } with
    | some ⟨stack, []⟩ => some stack
    | _ => none
  | _ => none

def accepts (context : Context) (witness script : Script) : Bool :=
  match runScript context witness [] >>= runScript context script with
  | some [top] => asBool top
  | _ => false

end PaymentChannel.Machine
