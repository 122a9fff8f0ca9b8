import PaymentChannel.Proofs.Script.Block

/-! The locks that outputs are put under, and what opens each of them. A lock that does not open
fails the script, except that a wrong signature leaves a false element. -/
namespace PaymentChannel.Machine

variable {context : Context} {stack : List Bytes} {result : Option (List Bytes)}

def keyLock (key : PublicKey) : List Word := [.push key.toBytes, .op Opcode.checkSig]

def secretLock (hash : Hash160) (key : PublicKey) : List Word :=
  .op Opcode.hash160 :: .push hash.bytes :: .op Opcode.equalVerify :: keyLock key

def timeLock (n : UInt16) (inner : List Word) : List Word :=
  Script.numberWord n.toNat :: .op Opcode.checkSequenceVerify :: .op Opcode.drop :: inner

def jointLock (first second : PublicKey) : List Word := [
  Script.numberWord 2, .push first.toBytes, .push second.toBytes, Script.numberWord 2,
  .op Opcode.checkMultiSig]

theorem execute_push (data : Bytes) : execute context (.push data) stack = some (data :: stack) := by
  simp only [execute]
  rw [if_pos (opcode_push_le data), Word.data_push]

theorem number_of_clear {element : Bytes} (clear : ∀ last ∈ element.getLast?, last < 0x80) :
    number element = Bytes.toNatLE element := by
  rw [number]
  split
  · rename_i last there
    rw [if_neg (UInt8.not_le.mpr (clear last there))]
  · rename_i empty
    rw [List.getLast?_eq_none_iff.mp empty]
    rfl

theorem getLast?_numberBytes_lt (n : Nat) : ∀ last ∈ (Script.numberBytes n).getLast?, last < 0x80 := by
  intro last there
  simp only [Script.numberBytes] at there
  split at there
  · rename_i digit found
    split at there
    · rw [List.getLast?_concat] at there
      cases there
      decide
    · rename_i clear
      rw [found] at there
      cases there
      exact UInt8.not_le.mp clear
  · cases there

theorem execute_numberWord (context : Context) (stack : List Bytes) (n : Nat) : ∃ element,
    execute context (Script.numberWord n) stack = some (element :: stack) ∧ number element = n := by
  -- the sign bit is clear in every form: a byte is added where it would be set
  by_cases large : 16 < n
  · refine ⟨Script.numberBytes n, ?_, ?_⟩
    · rw [Script.numberWord_of_lt large, execute_push]
    · rw [number_of_clear (getLast?_numberBytes_lt n), Script.toNatLE_numberBytes]
  · rw [Script.numberWord]
    split
    · rename_i zero
      exact ⟨[], rfl, zero ▸ rfl⟩
    · rename_i positive
      rw [if_pos (by omega)]
      have opcode : (Opcode.number n).toNat = 0x50 + n := by
        simp only [Opcode.number, UInt8.toNat_ofNat']
        omega
      have value : (UInt8.ofNat n).toNat = n := by
        rw [UInt8.toNat_ofNat']
        omega
      refine ⟨[UInt8.ofNat n], ?_, ?_⟩
      · have above : Opcode.one ≤ Opcode.number n := by
          rw [UInt8.le_iff_toNat_le, opcode]
          change 0x51 ≤ 0x50 + n
          omega
        simp only [execute, Word.op, opcode]
        rw [if_neg (by omega), if_pos ⟨above, by omega⟩, Nat.add_sub_cancel_left]
      · rw [number_of_clear]
        · simp [Bytes.toNatLE, value]
        · intro last there
          cases there
          change (UInt8.ofNat n).toNat < 0x80
          omega

theorem skips_keyLock (key : PublicKey) : Skips context (keyLock key) :=
  skips_cons (isPlain_push _) (skips_cons (by decide) skips_nil)

theorem skips_secretLock (hash : Hash160) (key : PublicKey) :
    Skips context (secretLock hash key) :=
  skips_cons (by decide) (skips_cons (isPlain_push _) (skips_cons (by decide) (skips_keyLock key)))

theorem skips_timeLock (n : UInt16) {inner : List Word} (skips : Skips context inner) :
    Skips context (timeLock n inner) :=
  skips_cons (isPlain_of_le (opcode_numberWord_le n.toNat))
    (skips_cons (by decide) (skips_cons (by decide) skips))

theorem skips_jointLock (first second : PublicKey) : Skips context (jointLock first second) :=
  skips_cons (by decide) (skips_cons (isPlain_push _) (skips_cons (isPlain_push _)
    (skips_cons (by decide) (skips_cons (by decide) skips_nil))))

theorem computes_keyLock (key : PublicKey) (sig : Bytes) :
    Computes context (keyLock key) (sig :: stack)
      (some (ofBool (isSignedBy context key.toBytes sig) :: stack)) :=
  computes_cons (isPlain_push _) (execute_push _) (computes_cons (by decide) rfl computes_nil)

private theorem hash_eq {first second : Hash160} (same : first.bytes = second.bytes) :
    first = second := by
  cases first
  cases second
  cases same
  rfl

theorem computes_secretLock (hash : Hash160) (key : PublicKey) (secret sig : Bytes) :
    Computes context (secretLock hash key) (secret :: sig :: stack)
      (if hash160 secret = hash then
        some (ofBool (isSignedBy context key.toBytes sig) :: stack) else none) := by
  refine computes_cons (by decide) rfl (computes_cons (isPlain_push _) (execute_push _) ?_)
  split
  · rename_i same
    refine computes_cons (by decide) ?_ (computes_keyLock key sig)
    exact if_pos (congrArg Hash160.bytes same.symm)
  · rename_i different
    refine computes_fail (by decide) (if_neg fun same => different ?_)
    exact hash_eq same.symm

theorem computes_timeLock (n : UInt16) {inner : List Word}
    (opens : Computes context inner stack result) :
    Computes context (timeLock n inner) stack
      (if n.toNat ≤ context.age then result else none) := by
  have plain : IsPlain (Script.numberWord n.toNat) := isPlain_of_le (opcode_numberWord_le n.toNat)
  obtain ⟨element, pushed, value⟩ := execute_numberWord context stack n.toNat
  refine computes_cons plain pushed ?_
  split
  · rename_i reached
    have passed : execute context (.op Opcode.checkSequenceVerify) (element :: stack) =
        some (element :: stack) := if_pos (by rw [value]; omega)
    exact computes_cons (by decide) passed (computes_cons (by decide) rfl opens)
  · rename_i early
    refine computes_fail (by decide) (if_neg ?_)
    rw [value]
    omega

theorem takeCounted_two (first second : Bytes) :
    takeCounted ([2] :: first :: second :: stack) = some ([first, second], stack) := by
  have two : number [2] = 2 := rfl
  have bound : (2 : Int) ≤ (first :: second :: stack).length := by
    simp only [List.length_cons]
    omega
  rw [takeCounted, two, if_pos ⟨by decide, bound⟩, List.splitAt_eq]
  rfl

theorem computes_jointLock (first second : PublicKey) (firstSig secondSig : Bytes) :
    Computes context (jointLock first second) (secondSig :: firstSig :: [] :: stack)
      (some (ofBool (areSignedInOrder context [secondSig, firstSig]
        [second.toBytes, first.toBytes]) :: stack)) := by
  have checked : execute context (.op Opcode.checkMultiSig)
      ([2] :: second.toBytes :: first.toBytes :: [2] :: secondSig :: firstSig :: [] :: stack) =
        some (ofBool (areSignedInOrder context [secondSig, firstSig]
          [second.toBytes, first.toBytes]) :: stack) := by
    change checkMultiSig context _ = _
    rw [checkMultiSig, takeCounted_two, Option.bind_eq_bind, Option.bind_some]
    simp only [takeCounted_two, Option.bind_some]
    rfl
  exact computes_cons (by decide) rfl (computes_cons (isPlain_push _) (execute_push _)
    (computes_cons (isPlain_push _) (execute_push _) (computes_cons (by decide) rfl
      (computes_cons (by decide) checked computes_nil))))

end PaymentChannel.Machine
