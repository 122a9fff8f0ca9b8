import PaymentChannel.Template.Field

/-! Scripts written from words and walked again. Every word that a script can hold is read back with
nothing of what follows it, so the walk over a written script gives its words and ends at its end,
and two sequences of such words with the same script are the same. A walk over any script gives
words that a script can hold, and each of them is written as the bytes it was read from. -/
namespace PaymentChannel

namespace Word

theorem isWellFormed_op {opcode : UInt8} (plain : opcode = 0 ∨ 0x4e < opcode.toNat) :
    (Word.op opcode).IsWellFormed := by
  rcases plain with rfl | above
  · simp [Word.op, IsWellFormed]
  · simp only [Word.op, IsWellFormed]
    rw [if_neg (by omega), if_neg (by omega)]
    trivial

theorem isWellFormed_push {data : Bytes} (small : data.length < 0x100000000) :
    (Word.push data).IsWellFormed := by
  simp only [Word.push, IsWellFormed]
  split
  · rename_i direct
    have same : (UInt8.ofNat data.length).toNat = data.length := by
      simp only [UInt8.toNat_ofNat']
      omega
    simp [same, direct]
  · split
    · simpa [Opcode.pushData1, lengthWidth, Bytes.capacity] using by omega
    · split
      · simpa [Opcode.pushData1, Opcode.pushData2, lengthWidth, Bytes.capacity] using by omega
      · simpa [Opcode.pushData1, Opcode.pushData2, Opcode.pushData4, lengthWidth, Bytes.capacity]
          using small

theorem length_data_lt {word : Word} (wf : word.IsWellFormed) :
    word.data.length < 0x100000000 := by
  rw [IsWellFormed] at wf
  split at wf
  · omega
  · split at wf
    · have bound : Bytes.capacity (lengthWidth word.opcode) ≤ 0x100000000 := by
        rw [lengthWidth]
        repeat' split
        all_goals decide
      omega
    · simp [wf]

@[simp] theorem data_push (data : Bytes) : (Word.push data).data = data := by
  simp only [Word.push]
  split
  · rfl
  · split
    · rfl
    · split <;> rfl

end Word

namespace Script

private theorem takeData_append (opcode : UInt8) (data rest : Bytes) :
    takeData opcode data.length (data ++ rest) = .word ⟨opcode, data⟩ rest := by
  simp [takeData]

theorem lengthWidth_eq_zero {opcode : UInt8} (above : ¬ opcode.toNat ≤ 0x4b) :
    Word.lengthWidth opcode = 0 ↔ ¬ opcode.toNat ≤ 0x4e := by
  have names : (opcode = Opcode.pushData1 ↔ opcode.toNat = 0x4c) ∧
      (opcode = Opcode.pushData2 ↔ opcode.toNat = 0x4d) ∧
      (opcode = Opcode.pushData4 ↔ opcode.toNat = 0x4e) := by
    simp [← UInt8.toNat_inj, Opcode.pushData1, Opcode.pushData2, Opcode.pushData4]
  simp only [Word.lengthWidth, names]
  split
  · simp; omega
  · split
    · simp; omega
    · split
      · simp; omega
      · simp; omega

private theorem lengthWidth_of_direct {opcode : UInt8} (direct : opcode.toNat ≤ 0x4b) :
    Word.lengthWidth opcode = 0 := by
  have other (wide : UInt8) (large : 0x4c ≤ wide.toNat) : opcode ≠ wide := by
    intro same
    subst same
    omega
  unfold Word.lengthWidth
  rw [if_neg (other _ (by decide)), if_neg (other _ (by decide)), if_neg (other _ (by decide))]

/-- What stands behind the opcode of a written word is read as that word. -/
theorem front_encode {word : Word} (wf : word.IsWellFormed) (rest : Script) :
    front word.opcode (Bytes.ofNatLE (Word.lengthWidth word.opcode) word.data.length ++ word.data ++
      rest) = .word word rest := by
  obtain ⟨opcode, data⟩ := word
  simp only [Word.IsWellFormed] at wf
  simp only [front]
  by_cases direct : opcode.toNat ≤ 0x4b
  · rw [if_pos direct] at wf
    rw [if_pos direct, lengthWidth_of_direct direct, ← wf]
    simpa [Bytes.ofNatLE] using takeData_append opcode data rest
  · rw [if_neg direct] at wf ⊢
    by_cases counted : opcode.toNat ≤ 0x4e
    · rw [if_pos counted] at wf
      have width : ¬ Word.lengthWidth opcode = 0 := by
        rw [lengthWidth_eq_zero direct]
        exact not_not_intro counted
      have field : Bytes.toNatLE (Bytes.ofNatLE (Word.lengthWidth opcode) data.length) =
          data.length := by
        rw [Bytes.toNatLE_ofNatLE, Nat.mod_eq_of_lt wf]
      simp [width, List.append_assoc, field, takeData_append]
    · rw [if_neg counted] at wf
      have width := (lengthWidth_eq_zero direct).mpr counted
      subst wf
      simp [width, Bytes.ofNatLE, Word.op]

private theorem takeData_eq_word {opcode : UInt8} {length : Nat} {rest after : Script} {word : Word}
    (found : takeData opcode length rest = .word word after) :
    word.opcode = opcode ∧ word.data.length = length ∧ rest = word.data ++ after := by
  simp only [takeData] at found
  split at found
  · rename_i whole
    cases found
    exact ⟨rfl, whole, (List.take_append_drop length rest).symm⟩
  · cases found

/-- A direct push is its opcode and as many bytes as that says. -/
theorem written_direct {opcode : UInt8} {data : Bytes} (direct : opcode.toNat ≤ 0x4b)
    (length : data.length = opcode.toNat) :
    (Word.mk opcode data).IsWellFormed ∧ (Word.mk opcode data).encode = opcode :: data := by
  refine ⟨?_, ?_⟩
  · rw [Word.IsWellFormed, if_pos direct]
    exact length
  · rw [Word.encode, lengthWidth_of_direct direct]
    rfl

/-- Any other push is its opcode, a field of the width that this asks for, and as many bytes as the
field says. -/
theorem written_counted {opcode : UInt8} {field data : Bytes} (above : ¬ opcode.toNat ≤ 0x4b)
    (counted : opcode.toNat ≤ 0x4e) (whole : field.length = Word.lengthWidth opcode)
    (length : data.length = Bytes.toNatLE field) :
    (Word.mk opcode data).IsWellFormed ∧
      (Word.mk opcode data).encode = opcode :: (field ++ data) := by
  refine ⟨?_, ?_⟩
  · have fits := Bytes.toNatLE_lt field
    rw [whole, ← length] at fits
    rw [Word.IsWellFormed, if_neg above, if_pos counted]
    exact fits
  · have same := Bytes.ofNatLE_toNatLE field
    rw [whole, ← length] at same
    rw [Word.encode, same, List.cons_append]

/-- What is read at the front of a script is a word that it can hold, and its bytes are those that
the word is written as. -/
theorem written_of_front {opcode : UInt8} {rest after : Script} {word : Word}
    (found : front opcode rest = .word word after) :
    word.IsWellFormed ∧ opcode :: rest = word.encode ++ after := by
  obtain ⟨code, data⟩ := word
  rw [front] at found
  split at found
  · rename_i direct
    obtain ⟨rfl, length, rfl⟩ := takeData_eq_word found
    obtain ⟨wf, written⟩ := written_direct direct length
    exact ⟨wf, by rw [written, List.cons_append]⟩
  · rename_i above
    dsimp only at found
    split at found
    · rename_i plain
      cases found
      rw [lengthWidth_eq_zero above] at plain
      exact ⟨Word.isWellFormed_op (.inr (Nat.not_le.mp plain)), by
        rw [Word.encode, (lengthWidth_eq_zero above).mpr plain]; rfl⟩
    · rename_i counted
      split at found
      · rename_i whole
        obtain ⟨rfl, length, split⟩ := takeData_eq_word found
        rw [lengthWidth_eq_zero above, Decidable.not_not] at counted
        obtain ⟨wf, written⟩ := written_counted above counted whole length
        refine ⟨wf, ?_⟩
        rw [written, List.cons_append, List.append_assoc, ← split, List.take_append_drop]
      · cases found

theorem isWellFormed_of_mem_walk (script : Script) :
    ∀ word ∈ (walk script).1, word.IsWellFormed := by
  fun_induction walk script with
  | case1 => simp
  | case2 opcode rest ending cut => simp
  | case3 opcode rest word after found shorter words ending walked ih =>
    rw [walked] at ih
    intro other member
    rcases List.mem_cons.mp member with rfl | inside
    · exact (written_of_front found).1
    · exact ih other inside

theorem word_eq_ok_iff {script : Script} {index : Nat} {word : Word} :
    script.word index = .ok word ↔ (walk script).1[index]? = some word := by
  rw [Script.word]
  cases found : (walk script).1[index]? with
  | some other => simp [found]
  | none =>
    simp only [found]
    split <;> simp

theorem walk_encode {word : Word} (wf : word.IsWellFormed) (rest : Script) :
    walk (word.encode ++ rest) = (word :: (walk rest).1, (walk rest).2) := by
  have read := front_encode wf rest
  rw [Word.encode, List.cons_append, List.cons_append, walk]
  split
  · rename_i cut
    rw [read] at cut
    cases cut
  · rename_i found
    rw [read] at found
    cases found
    rfl

theorem walk_ofWords_append {words : List Word} (wf : ∀ word ∈ words, word.IsWellFormed)
    (rest : Script) :
    walk (ofWords words ++ rest) = (words ++ (walk rest).1, (walk rest).2) := by
  induction words with
  | nil => rfl
  | cons word others ih =>
    have tail := ih fun other member => wf other (List.mem_cons_of_mem _ member)
    rw [ofWords, List.flatMap_cons, List.append_assoc, walk_encode (wf word (by simp))]
    rw [ofWords] at tail
    rw [tail]
    rfl

theorem walk_ofWords {words : List Word} (wf : ∀ word ∈ words, word.IsWellFormed) :
    walk (ofWords words) = (words, .complete) := by
  have whole := walk_ofWords_append wf []
  rw [List.append_nil] at whole
  rw [whole]
  simp [walk]

theorem ofWords_inj {words others : List Word} (wf : ∀ word ∈ words, word.IsWellFormed)
    (wf' : ∀ word ∈ others, word.IsWellFormed) (same : ofWords words = ofWords others) :
    words = others := by
  have walks := congrArg walk same
  rw [walk_ofWords wf, walk_ofWords wf'] at walks
  exact congrArg Prod.fst walks

theorem word_ofWords {words : List Word} (wf : ∀ word ∈ words, word.IsWellFormed) {index : Nat}
    {word : Word} (there : words[index]? = some word) :
    (ofWords words).word index = .ok word := by
  rw [Script.word, walk_ofWords wf]
  simp only [there]

end Script
end PaymentChannel
