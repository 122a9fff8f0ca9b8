import PaymentChannel.Channel.Request

/-! Contracts of questions and of actions. `Gives` says what a question may answer, `Ends` how an
action started in a state may end: with which result, and in which state. Both hold whatever the
oracle is when the question or the action starts, so a contract speaks of every moment. Where the
result of a part is known, the equations in front say how the whole goes on from it. -/
namespace PaymentChannel

theorem Outcome.toOption_eq_some {ε α : Type} {result : Except ε α} {value : α} :
    result.toOption = some value ↔ result = .ok value := by
  cases result <;> simp [Except.toOption]

namespace Channel

variable {σ α β : Type}

/-- Questions and actions alike go on with the value of their first part. -/
theorem bind_eq {τ : Type} {first : ExceptT Fault (StateM τ) α}
    {next : α → ExceptT Fault (StateM τ) β} {before middle : τ} {value : α}
    (ok : first before = (.ok value, middle)) : (first >>= next) before = next value middle := by
  change ExceptT.bindCont next (first before).1 (first before).2 = _
  rw [ok]
  rfl

theorem bind_eq_of_error {τ : Type} {first : ExceptT Fault (StateM τ) α}
    {next : α → ExceptT Fault (StateM τ) β} {before middle : τ} {fault : Fault}
    (failed : first before = (.error fault, middle)) :
    (first >>= next) before = (.error fault, middle) := by
  change ExceptT.bindCont next (first before).1 (first before).2 = _
  rw [failed]
  rfl

/-- A sequence succeeds exactly when its first part does and the rest does after it. -/
theorem bind_eq_ok {τ : Type} {first : ExceptT Fault (StateM τ) α}
    {next : α → ExceptT Fault (StateM τ) β} {before after : τ} {result : β} :
    (first >>= next) before = (.ok result, after) ↔
      ∃ value middle, first before = (.ok value, middle) ∧
        next value middle = (.ok result, after) := by
  change ExceptT.bindCont next (first before).1 (first before).2 = _ ↔ _
  rcases first before with ⟨_ | value, middle⟩
  · constructor
    · intro impossible
      cases impossible
    · rintro ⟨_, _, impossible, _⟩
      cases impossible
  · constructor
    · intro ok
      exact ⟨value, middle, rfl, ok⟩
    · rintro ⟨_, _, same, ok⟩
      cases same
      exact ok

theorem pure_eq_ok {τ : Type} {value result : α} {before after : τ} :
    (pure value : ExceptT Fault (StateM τ) α) before = (.ok result, after) ↔
      value = result ∧ after = before := by
  constructor
  · intro same
    cases same
    exact ⟨rfl, rfl⟩
  · rintro ⟨rfl, rfl⟩
    rfl

section Refusal

variable {τ : Type} {refused : Prop} [Decidable refused] {fault : Fault}
  {rest : ExceptT Fault (StateM τ) β} {before after : τ} {result : β}

/-- A check lets the rest go on exactly when it does not refuse. -/
theorem refuse_eq_ok : (if refused then throw fault else rest) before = (.ok result, after) ↔
    ¬ refused ∧ rest before = (.ok result, after) := by
  by_cases holds : refused
  · rw [if_pos holds]
    constructor
    · intro impossible
      cases impossible
    · rintro ⟨passed, -⟩
      exact (passed holds).elim
  · rw [if_neg holds]
    exact (and_iff_right holds).symm

theorem refuse_bind_eq_ok {skipped : α → ExceptT Fault (StateM τ) β} :
    (if refused then throw fault >>= skipped else rest) before = (.ok result, after) ↔
      ¬ refused ∧ rest before = (.ok result, after) :=
  refuse_eq_ok

end Refusal

/-- To succeed is to end somewhere. -/
theorem result_eq_ok {τ : Type} {action : ExceptT Fault (StateM τ) α} {before : τ} {result : α} :
    (action before).1 = .ok result ↔ ∃ after, action before = (.ok result, after) := by
  constructor
  · intro ok
    exact ⟨(action before).2, Prod.ext ok rfl⟩
  · rintro ⟨after, same⟩
    rw [same]

theorem lift_eq_ok {τ : Type} {result : Except Fault α} {value : α} {before after : τ} :
    (liftM result : ExceptT Fault (StateM τ) α) before = (.ok value, after) ↔
      result = .ok value ∧ after = before := by
  constructor
  · intro same
    obtain ⟨ok, rfl⟩ := Prod.mk.inj same
    exact ⟨ok, rfl⟩
  · rintro ⟨rfl, rfl⟩
    rfl

theorem lift_eq {τ : Type} {result : Except Fault α} {value : α} (ok : result = .ok value)
    (before : τ) : (liftM result : ExceptT Fault (StateM τ) α) before = (.ok value, before) :=
  lift_eq_ok.mpr ⟨ok, rfl⟩

theorem Action.getState_eq_ok {found : State} {before after : Session σ} :
    getState before = (.ok found, after) ↔ found = before.state ∧ after = before := by
  constructor
  · intro same
    cases same
    exact ⟨rfl, rfl⟩
  · rintro ⟨rfl, rfl⟩
    rfl

theorem Action.setState_eq_ok {state : State} {done : Unit} {before after : Session σ} :
    setState state before = (.ok done, after) ↔ after = ⟨state, before.chain⟩ := by
  constructor
  · intro same
    cases same
    rfl
  · rintro rfl
    rfl

theorem Action.ask_eq {question : State → Ask σ α} {before : Session σ} {later : σ} {value : α}
    (ok : question before.state before.chain = (.ok value, later)) :
    ask question before = (.ok value, ⟨before.state, later⟩) := by
  simp only [ask, ok]

theorem Action.ask_eq_ok {question : State → Ask σ α} {before after : Session σ} {value : α} :
    ask question before = (.ok value, after) ↔
      ∃ later, question before.state before.chain = (.ok value, later) ∧
        after = ⟨before.state, later⟩ := by
  constructor
  · intro same
    obtain ⟨ok, rfl⟩ := Prod.mk.inj same
    exact ⟨_, Prod.ext ok rfl, rfl⟩
  · rintro ⟨later, ok, rfl⟩
    exact ask_eq ok

/-- Every answer to the question is as described. -/
def Ask.Gives (question : Ask σ α) (post : Except Fault α → Prop) : Prop :=
  ∀ chain, post (question chain).1

namespace Ask

theorem Gives.mono {question : Ask σ α} {post weaker : Except Fault α → Prop}
    (gives : question.Gives post) (weaken : ∀ result, post result → weaker result) :
    question.Gives weaker := fun chain => weaken _ (gives chain)

theorem gives_pure {value : α} {post : Except Fault α → Prop} (h : post (.ok value)) :
    Gives (pure value : Ask σ α) post := fun _ => h

theorem gives_lift {value : Except Fault α} {post : Except Fault α → Prop} (h : post value) :
    Gives (liftM value : Ask σ α) post := fun _ => h

theorem gives_bind {first : Ask σ α} {next : α → Ask σ β} {middle : Except Fault α → Prop}
    {post : Except Fault β → Prop} (start : first.Gives middle)
    (failed : ∀ fault, middle (.error fault) → post (.error fault))
    (rest : ∀ value, middle (.ok value) → (next value).Gives post) :
    Gives (first >>= next) post := by
  intro chain
  have begun := start chain
  change post (ExceptT.bindCont next (first chain).1 (first chain).2).1
  cases answer : (first chain).1 with
  | error fault =>
    rw [answer] at begun
    exact failed fault begun
  | ok value =>
    rw [answer] at begun
    exact rest value begun _

theorem gives_lookup {lookup : Lookup σ α} {post : Except Fault α → Prop}
    (answered : ∀ chain value, (lookup chain).1 = .ok value → post (.ok value))
    (failed : ∀ error, post (.error (.oracle error))) : (Ask.lookup lookup).Gives post := by
  intro chain
  have given := answered chain
  simp only [Ask.lookup]
  split
  · rename_i value _ found
    exact given value (by rw [found])
  · exact failed _

end Ask

namespace Action

/-- However the action ends when started in a state, its result and the state it leaves are as
described. -/
def Ends (action : Action σ α) (before : State) (post : Except Fault α → State → Prop) : Prop :=
  ∀ chain, post (action ⟨before, chain⟩).1 (action ⟨before, chain⟩).2.state

variable {before : State} {post : Except Fault α → State → Prop}

theorem Ends.mono {action : Action σ α} {weaker : Except Fault α → State → Prop}
    (ends : action.Ends before post) (weaken : ∀ result after, post result after →
      weaker result after) : action.Ends before weaker :=
  fun chain => weaken _ _ (ends chain)

theorem Ends.of_ok {action : Action σ α} (ends : action.Ends before post) {chain : σ} {value : α}
    (ok : (action ⟨before, chain⟩).1 = .ok value) :
    post (.ok value) (action ⟨before, chain⟩).2.state := ok ▸ ends chain

theorem Ends.of_error {action : Action σ α} (ends : action.Ends before post) {chain : σ}
    {fault : Fault} (failed : (action ⟨before, chain⟩).1 = .error fault) :
    post (.error fault) (action ⟨before, chain⟩).2.state := failed ▸ ends chain

theorem ends_pure {value : α} (h : post (.ok value) before) :
    Ends (pure value : Action σ α) before post := fun _ => h

theorem ends_throw {fault : Fault} (h : post (.error fault) before) :
    Ends (throw fault : Action σ α) before post := fun _ => h

theorem ends_lift {value : Except Fault α} (h : post value before) :
    Ends (liftM value : Action σ α) before post := fun _ => h

theorem ends_getState {post : Except Fault State → State → Prop} (h : post (.ok before) before) :
    Ends (getState : Action σ State) before post := fun _ => h

theorem ends_setState {after : State} {post : Except Fault Unit → State → Prop}
    (h : post (.ok ()) after) : Ends (setState after : Action σ Unit) before post := fun _ => h

theorem ends_ask {question : State → Ask σ α}
    (answers : (question before).Gives fun result => post result before) :
    (ask question).Ends before post := answers

theorem ends_bind {first : Action σ β} {next : β → Action σ α}
    (start : first.Ends before fun result middle =>
      match result with
      | .ok value => (next value).Ends middle post
      | .error fault => post (.error fault) middle) :
    Ends (first >>= next) before post := by
  intro chain
  have begun := start chain
  change post (ExceptT.bindCont next (first ⟨before, chain⟩).1 (first ⟨before, chain⟩).2).1
    (ExceptT.bindCont next (first ⟨before, chain⟩).1 (first ⟨before, chain⟩).2).2.state
  cases result : (first ⟨before, chain⟩).1 with
  | error fault =>
    rw [result] at begun
    exact begun
  | ok value =>
    rw [result] at begun
    exact begun (first ⟨before, chain⟩).2.chain

theorem ends_ite {c : Prop} [Decidable c] {first second : Action σ α}
    (pass : c → first.Ends before post) (fail : ¬ c → second.Ends before post) :
    Ends (if c then first else second) before post := by
  split
  · exact pass ‹c›
  · exact fail ‹¬ c›

end Action
end Channel
end PaymentChannel
