import Mathlib.Data.List.Forall2
import PaymentChannel.Proofs.Script.Machine
import PaymentChannel.Proofs.Script.Number

/-! Blocks of words and what running them gives. A block is run where all branches around it are
taken and gives a stack or fails; elsewhere it is passed over. The templates are made of few kinds of
blocks: a signature, two signatures, a secret, a timelock, and the choice between two blocks. -/
namespace PaymentChannel.Machine

variable {context : Context}

/-- Where all branches are taken, the words leave the stack given, or fail where there is none. -/
def Computes (context : Context) (words : List Word) (stack : List Bytes)
    (result : Option (List Bytes)) : Prop :=
  ∀ branches : List Bool, branches.all id = true →
    run context words ⟨stack, branches⟩ = result.map fun stack => ⟨stack, branches⟩

/-- Where some branch is not taken, the words change nothing. -/
def Skips (context : Context) (words : List Word) : Prop :=
  ∀ (stack : List Bytes) (branches : List Bool), branches.all id = false →
    run context words ⟨stack, branches⟩ = some ⟨stack, branches⟩

def IsPlain (word : Word) : Prop :=
  word.opcode ≠ Opcode.ifTrue ∧ word.opcode ≠ Opcode.otherwise ∧ word.opcode ≠ Opcode.endIf

instance : DecidablePred IsPlain := fun _ => inferInstanceAs (Decidable (_ ∧ _ ∧ _))

theorem isPlain_of_le {word : Word} (low : word.opcode.toNat ≤ 0x60) : IsPlain word := by
  refine ⟨?_, ?_, ?_⟩
  all_goals
    intro same
    rw [same] at low
    exact absurd low (by decide)

theorem opcode_push_le (data : Bytes) : (Word.push data).opcode.toNat ≤ 0x4e := by
  simp only [Word.push]
  split
  · simp only [UInt8.toNat_ofNat']
    omega
  · split
    · exact (by decide : Opcode.pushData1.toNat ≤ 0x4e)
    · split
      · exact (by decide : Opcode.pushData2.toNat ≤ 0x4e)
      · exact (by decide : Opcode.pushData4.toNat ≤ 0x4e)

theorem opcode_numberWord_le (n : Nat) : (Script.numberWord n).opcode.toNat ≤ 0x60 := by
  rw [Script.numberWord]
  split
  · decide
  · split
    · simp only [Word.op, Opcode.number, UInt8.toNat_ofNat']
      omega
    · have low := opcode_push_le (Script.numberBytes n)
      omega

theorem isPlain_push (data : Bytes) : IsPlain (.push data) :=
  isPlain_of_le (Nat.le_trans (opcode_push_le data) (by decide))

section Step

variable {word : Word} {words : List Word} {stack next : List Bytes} {branches : List Bool}
  {result : Option (List Bytes)}

theorem run_cons (context : Context) (word : Word) (words : List Word) (state : State) :
    run context (word :: words) state = step context state word >>= run context words :=
  List.foldlM_cons ..

theorem run_append (context : Context) (first second : List Word) (state : State) :
    run context (first ++ second) state = run context first state >>= run context second :=
  List.foldlM_append ..

theorem run_cons_of_step {state after : State} (done : step context state word = some after) :
    run context (word :: words) state = run context words after := by
  rw [run_cons, done]
  rfl

theorem run_append_of_run {state after : State} {others : List Word}
    (done : run context words state = some after) :
    run context (words ++ others) state = run context others after := by
  rw [run_append, done]
  rfl

theorem step_taken (plain : IsPlain word) (taken : branches.all id = true) :
    step context ⟨stack, branches⟩ word =
      (execute context word stack).map fun stack => ⟨stack, branches⟩ := by
  obtain ⟨noIf, noElse, noEnd⟩ := plain
  simp only [step, taken, noIf, noElse, noEnd, if_false, if_true]

theorem step_skipped (plain : IsPlain word) (skipped : branches.all id = false) :
    step context ⟨stack, branches⟩ word = some ⟨stack, branches⟩ := by
  obtain ⟨noIf, noElse, noEnd⟩ := plain
  simp only [step, skipped, noIf, noElse, noEnd, if_false, Bool.false_eq_true]

theorem skips_nil : Skips context [] := fun _ _ _ => rfl

theorem skips_cons (plain : IsPlain word) (skips : Skips context words) :
    Skips context (word :: words) := by
  intro stack branches skipped
  rw [run_cons_of_step (step_skipped plain skipped)]
  exact skips stack branches skipped

theorem computes_nil : Computes context [] stack (some stack) := fun _ _ => rfl

theorem computes_cons (plain : IsPlain word) (done : execute context word stack = some next)
    (rest : Computes context words next result) : Computes context (word :: words) stack result := by
  intro branches taken
  rw [run_cons, step_taken plain taken, done]
  exact rest branches taken

theorem computes_fail (plain : IsPlain word) (failed : execute context word stack = none) :
    Computes context (word :: words) stack none := by
  intro branches taken
  rw [run_cons, step_taken plain taken, failed]
  rfl

end Step

theorem runScript_ofWords {words : List Word} {stack : List Bytes} {result : Option (List Bytes)}
    (wf : ∀ word ∈ words, word.IsWellFormed) (computes : Computes context words stack result) :
    runScript context (Script.ofWords words) stack = result := by
  have ran := computes [] rfl
  simp only [runScript, Script.walk_ofWords wf, ran]
  cases result <;> rfl

/-- Where a script fails unless a condition holds, and then leaves true alone, the condition is what
the output is open for. -/
theorem accepts_iff {witness script : Script} {stack : List Bytes} {c : Prop} [Decidable c]
    (left : runScript context witness [] = some stack)
    (ran : runScript context script stack = if c then some [ofBool true] else none) :
    accepts context witness script = true ↔ c := by
  rw [accepts, left, Option.bind_eq_bind, Option.bind_some, ran]
  split
  · rename_i top same
    split at same
    · rename_i open_
      cases same
      exact iff_of_true rfl open_
    · cases same
  · rename_i other
    have closed : ¬ c := fun open_ => other _ (if_pos open_)
    exact iff_of_false Bool.false_ne_true closed

/-- A word that does nothing but put an element on the stack. -/
structure Pushes (context : Context) (word : Word) (element : Bytes) : Prop where
  wf : word.IsWellFormed
  plain : IsPlain word
  done : ∀ stack, execute context word stack = some (element :: stack)

theorem runScript_of_pushes {words : List Word} {elements : List Bytes}
    (pushes : List.Forall₂ (Pushes context) words elements) :
    runScript context (Script.ofWords words) [] = some elements.reverse := by
  have computes (stack : List Bytes) :
      Computes context words stack (some (elements.reverse ++ stack)) := by
    induction pushes generalizing stack with
    | nil => exact computes_nil
    | @cons word element words elements first _ ih =>
      rw [List.reverse_cons, List.append_assoc]
      exact computes_cons first.plain (first.done stack) (ih (element :: stack))
  have wf : ∀ word ∈ words, word.IsWellFormed := by
    clear computes
    induction pushes with
    | nil => simp
    | cons first _ ih => exact List.forall_mem_cons.mpr ⟨first.wf, ih⟩
  rw [runScript_ofWords wf (computes []), List.append_nil]

/-- The choice between two blocks by the top of the stack. -/
def branch (whenTrue whenFalse : List Word) : List Word :=
  .op Opcode.ifTrue :: (whenTrue ++ .op Opcode.otherwise :: (whenFalse ++ [.op Opcode.endIf]))

section Branch

variable {whenTrue whenFalse : List Word} {stack : List Bytes}

theorem step_ifTrue_taken (top : Bytes) {branches : List Bool} (taken : branches.all id = true) :
    step context ⟨top :: stack, branches⟩ (.op Opcode.ifTrue) =
      some ⟨stack, asBool top :: branches⟩ := by
  simp only [step, Word.op, taken, if_true]

theorem step_ifTrue_skipped {branches : List Bool} (skipped : branches.all id = false) :
    step context ⟨stack, branches⟩ (.op Opcode.ifTrue) = some ⟨stack, false :: branches⟩ := by
  simp only [step, Word.op, skipped, if_true, Bool.false_eq_true, if_false]

theorem step_otherwise (stack : List Bytes) (taken : Bool) (branches : List Bool) :
    step context ⟨stack, taken :: branches⟩ (.op Opcode.otherwise) =
      some ⟨stack, (!taken) :: branches⟩ :=
  rfl

theorem run_endIf (stack : List Bytes) (taken : Bool) (branches : List Bool) :
    run context [.op Opcode.endIf] ⟨stack, taken :: branches⟩ = some ⟨stack, branches⟩ :=
  rfl

theorem skips_branch (skipTrue : Skips context whenTrue) (skipFalse : Skips context whenFalse) :
    Skips context (branch whenTrue whenFalse) := by
  intro stack branches skipped
  have inside (taken : Bool) : (taken :: branches).all id = false := by
    rw [List.all_cons, skipped, Bool.and_false]
  rw [branch, run_cons_of_step (step_ifTrue_skipped skipped),
    run_append_of_run (skipTrue stack _ (inside false)),
    run_cons_of_step (step_otherwise stack false branches), Bool.not_false,
    run_append_of_run (skipFalse stack _ (inside true)), run_endIf]

theorem computes_branch {top : Bytes} {result : Option (List Bytes)}
    (skipTrue : Skips context whenTrue) (skipFalse : Skips context whenFalse)
    (chosen : Computes context (if asBool top then whenTrue else whenFalse) stack result) :
    Computes context (branch whenTrue whenFalse) (top :: stack) result := by
  intro branches taken
  have inside (other : Bool) : (other :: branches).all id = other := by
    rw [List.all_cons, taken, Bool.and_true]
    rfl
  rw [branch, run_cons_of_step (step_ifTrue_taken top taken)]
  cases choice : asBool top with
  | true =>
    rw [choice, if_pos rfl] at chosen
    rw [run_append, chosen _ (inside true)]
    cases result with
    | none => rfl
    | some after =>
      rw [Option.map_some, Option.bind_eq_bind, Option.bind_some,
        run_cons_of_step (step_otherwise after true branches), Bool.not_true,
        run_append_of_run (skipFalse after _ (inside false)), run_endIf]
      rfl
  | false =>
    rw [choice, if_neg Bool.false_ne_true] at chosen
    rw [run_append_of_run (skipTrue stack _ (inside false)),
      run_cons_of_step (step_otherwise stack false branches), Bool.not_false, run_append,
      chosen _ (inside true)]
    cases result with
    | none => rfl
    | some after => rfl

end Branch
end PaymentChannel.Machine
