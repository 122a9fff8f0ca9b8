import PaymentChannel.Proofs.Script.Walk
import PaymentChannel.Spend

/-! Between a script and its words nothing is lost. The words of any byte string, written down
again, are its front, and nothing stands behind them but a push that the end of the script cuts. A
script built from data and opcodes has exactly these for its words, each push under the opcode that
the length of its data asks for. -/
namespace PaymentChannel.Script

/-- The front of a push whose last bytes are missing, be they of its length or of its data. -/
def IsCutPush (bytes : Bytes) : Prop :=
  bytes ≠ [] ∧ ∃ (push : Word) (missing : Bytes),
    push.IsWellFormed ∧ push.opcode.toNat ≤ 0x4e ∧ missing ≠ [] ∧ push.encode = bytes ++ missing

private theorem takeData_eq_cut {opcode : UInt8} {length : Nat} {rest : Script} {ending : Ending}
    (cut : takeData opcode length rest = .cut ending) :
    ending = .cutData opcode ∧ rest.length < length := by
  simp only [takeData] at cut
  split at cut
  · cases cut
  · rename_i short
    cases cut
    rw [List.length_take] at short
    exact ⟨rfl, by omega⟩

private theorem exists_padding {bytes : Bytes} {length : Nat} (short : bytes.length < length) :
    ∃ missing : Bytes, missing ≠ [] ∧ (bytes ++ missing).length = length := by
  refine ⟨List.replicate (length - bytes.length) 0, ?_, ?_⟩
  · rw [Ne, List.replicate_eq_nil_iff]
    omega
  · rw [List.length_append, List.length_replicate]
    omega

/-- Where nothing whole stands at the front of a script, all of it is one push without its end. -/
theorem isCutPush_of_front {opcode : UInt8} {rest : Script} {ending : Ending}
    (cut : front opcode rest = .cut ending) :
    ending ≠ .complete ∧ IsCutPush (opcode :: rest) := by
  have some : opcode :: rest ≠ [] := List.cons_ne_nil opcode rest
  rw [front] at cut
  split at cut
  · rename_i direct
    obtain ⟨rfl, short⟩ := takeData_eq_cut cut
    obtain ⟨missing, lacking, length⟩ := exists_padding short
    obtain ⟨wf, written⟩ := written_direct direct length
    exact ⟨by simp, some, _, missing, wf, Nat.le_trans direct (by decide), lacking, written⟩
  · rename_i above
    dsimp only at cut
    split at cut
    · cases cut
    · rename_i counted
      rw [lengthWidth_eq_zero above, Decidable.not_not] at counted
      split at cut
      · rename_i whole
        obtain ⟨rfl, short⟩ := takeData_eq_cut cut
        obtain ⟨missing, lacking, length⟩ := exists_padding short
        obtain ⟨wf, written⟩ := written_counted above counted whole length
        refine ⟨by simp, some, _, missing, wf, counted, lacking, ?_⟩
        rw [written, ← List.append_assoc, List.take_append_drop, List.cons_append]
      · rename_i short
        cases cut
        rw [List.length_take] at short
        obtain ⟨missing, lacking, whole⟩ :=
          exists_padding (show rest.length < Word.lengthWidth opcode by omega)
        -- whatever number the field becomes, data of that length can follow
        obtain ⟨data, length⟩ : ∃ data : Bytes, data.length = Bytes.toNatLE (rest ++ missing) :=
          ⟨List.replicate _ 0, List.length_replicate⟩
        obtain ⟨wf, written⟩ := written_counted above counted whole length
        refine ⟨by simp, some, _, missing ++ data, wf, counted, by simp [lacking], ?_⟩
        rw [written, List.append_assoc, List.cons_append]

/-- The words of a script are what it begins with, and it ends there or inside a push. -/
theorem ofWords_words (script : Script) : ∃ rest, script = ofWords script.words ++ rest ∧
    (script.ending = .complete ∧ rest = [] ∨ script.ending ≠ .complete ∧ IsCutPush rest) := by
  rw [words, ending]
  fun_induction walk script with
  | case1 => exact ⟨[], rfl, .inl ⟨rfl, rfl⟩⟩
  | case2 opcode rest ending cut => exact ⟨opcode :: rest, rfl, .inr (isCutPush_of_front cut)⟩
  | case3 opcode rest word after found shorter words ending walked ih =>
    rw [walked] at ih
    obtain ⟨left, same, ends⟩ := ih
    refine ⟨left, ?_, ends⟩
    rw [(written_of_front found).2, ofWords, List.flatMap_cons, List.append_assoc]
    exact congrArg _ same

theorem word_of_lt {script : Script} {index : Nat} (inside : index < script.words.length) :
    script.word index = .ok script.words[index] :=
  word_eq_ok_iff.mpr (List.getElem?_eq_getElem inside)

theorem word_of_le {script : Script} {index : Nat} (past : script.words.length ≤ index) :
    script.word index =
      if script.ending = .complete then .error (.wordOutOfRange index)
      else .error (.wordCut script.words.length) := by
  rw [words] at past
  simp only [Script.word, List.getElem?_eq_none past]
  rfl

/-- What a script is built from: data to push, or an opcode that is no push. -/
inductive Item
  | push (data : Bytes) (fits : data.length < 0x100000000)
  | op (opcode : UInt8) (above : 0x4e < opcode.toNat)

namespace Item

def data : Item → Bytes
  | .push data _ => data
  | .op _ _ => []

/-- Data of up to 75 bytes are pushed by the opcode of their length, others by one that names the
width of a length field: one byte, two or four. -/
def opcode : Item → Nat
  | .push data _ =>
    if data.length ≤ 75 then data.length
    else if data.length ≤ 255 then Opcode.pushData1.toNat
    else if data.length ≤ 65535 then Opcode.pushData2.toNat
    else Opcode.pushData4.toNat
  | .op opcode _ => opcode.toNat

def write : Item → Except Fault Word
  | .push data _ => Witness.push data
  | .op opcode _ => .ok (.op opcode)

def word : Item → Word
  | .push data _ => .push data
  | .op opcode _ => .op opcode

theorem write_eq (item : Item) : item.write = .ok item.word := by
  cases item with
  | push data fits => exact if_pos fits
  | op opcode above => rfl

theorem isWellFormed_word (item : Item) : item.word.IsWellFormed := by
  cases item with
  | push data fits => exact Word.isWellFormed_push fits
  | op opcode above => exact Word.isWellFormed_op (.inr above)

theorem data_word (item : Item) : item.word.data = item.data := by
  cases item with
  | push data fits => exact Word.data_push data
  | op opcode above => rfl

theorem opcode_word (item : Item) : item.word.opcode.toNat = item.opcode := by
  cases item with
  | push data fits =>
    simp only [word, Word.push, opcode]
    split
    · simp only [UInt8.toNat_ofNat']
      omega
    · split
      · rfl
      · split
        · rfl
        · rfl
  | op opcode above => rfl

end Item

/-- The script of the items, one after the other. -/
def build (items : List Item) : Except Fault Script := return ofWords (← items.mapM Item.write)

theorem build_eq (items : List Item) : build items = .ok (ofWords (items.map Item.word)) := by
  have written : items.mapM Item.write = .ok (items.map Item.word) := by
    induction items with
    | nil => rfl
    | cons item others ih =>
      rw [List.mapM_cons, item.write_eq, ih]
      rfl
  rw [build, written]
  rfl

theorem walk_build (items : List Item) :
    walk (ofWords (items.map Item.word)) = (items.map Item.word, .complete) := by
  refine walk_ofWords fun word member => ?_
  obtain ⟨item, _, rfl⟩ := List.mem_map.mp member
  exact item.isWellFormed_word

/-- A script is read to its last byte. The words that it can be asked for are written as its front,
and what is left is nothing, or a push that the end of the script cuts; the first index that is
refused tells which. What is built from data and opcodes is read as these, and as nothing more. -/
theorem words_are_lossless :
    (∀ script : Script,
      (∀ index (inside : index < script.words.length),
        script.word index = .ok script.words[index]) ∧
      (∀ index, script.words.length ≤ index → ∃ fault, script.word index = .error fault) ∧
      ∃ rest, script = ofWords script.words ++ rest ∧
        (rest = [] ↔
          script.word script.words.length = .error (.wordOutOfRange script.words.length)) ∧
        (rest ≠ [] →
          script.word script.words.length = .error (.wordCut script.words.length) ∧
            IsCutPush rest)) ∧
    ∀ items : List Item, ∃ script, build items = .ok script ∧
      (∀ index (inside : index < items.length), ∃ word, script.word index = .ok word ∧
        word.data = items[index].data ∧ word.opcode.toNat = items[index].opcode) ∧
      ∀ index, items.length ≤ index → script.word index = .error (.wordOutOfRange index) := by
  refine ⟨fun script => ⟨fun _ inside => word_of_lt inside, fun index past => ?_, ?_⟩, fun items => ?_⟩
  · rw [word_of_le past]
    split
    · exact ⟨_, rfl⟩
    · exact ⟨_, rfl⟩
  · obtain ⟨rest, split, ends⟩ := ofWords_words script
    refine ⟨rest, split, ?_⟩
    rw [word_of_le (Nat.le_refl _)]
    rcases ends with ⟨complete, rfl⟩ | ⟨cut, push⟩
    · simp [complete]
    · simp [cut, push, push.1]
  · have words : (ofWords (items.map Item.word)).words = items.map Item.word := by
      rw [Script.words, walk_build]
    have ending : (ofWords (items.map Item.word)).ending = .complete := by
      rw [Script.ending, walk_build]
    refine ⟨_, build_eq items, fun index inside => ?_, fun index past => ?_⟩
    · refine ⟨items[index].word, ?_, items[index].data_word, items[index].opcode_word⟩
      rw [word_eq_ok_iff, walk_build, List.getElem?_map, List.getElem?_eq_getElem inside,
        Option.map_some]
    · have counted : (ofWords (items.map Item.word)).words.length ≤ index := by
        rw [words, List.length_map]
        exact past
      rw [word_of_le counted, if_pos ending]

theorem words_are_lossless_cut_length :
    words [0x51, 0x4d, 0x05] = [.op Opcode.one] ∧
    ∃ rest, [0x51, 0x4d, 0x05] = ofWords (words [0x51, 0x4d, 0x05]) ++ rest ∧ rest ≠ [] ∧
      word [0x51, 0x4d, 0x05] 1 = .error (.wordCut 1) ∧ IsCutPush rest := by
  have read : words [0x51, 0x4d, 0x05] = [.op Opcode.one] := by decide +kernel
  obtain ⟨-, -, rest, split, -, cut⟩ := words_are_lossless.1 [0x51, 0x4d, 0x05]
  have left : rest ≠ [] := by
    rintro rfl
    rw [read] at split
    exact absurd split (by decide)
  obtain ⟨refused, push⟩ := cut left
  rw [read] at refused
  exact ⟨read, rest, split, left, refused, push⟩

end PaymentChannel.Script
