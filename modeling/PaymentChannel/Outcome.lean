/-! What the success of operations that may be refused says of their steps. -/
namespace PaymentChannel.Outcome

variable {ε α β : Type}

theorem bind_eq_ok {first : Except ε α} {next : α → Except ε β} {result : β} :
    first >>= next = .ok result ↔ ∃ value, first = .ok value ∧ next value = .ok result := by
  cases first with
  | error e => simp [bind, Except.bind]
  | ok value => simp [bind, Except.bind]

theorem ite_eq_ok {c : Prop} [Decidable c] {value result : α} {e : ε} :
    (if c then pure value else throw e : Except ε α) = .ok result ↔ c ∧ value = result := by
  by_cases h : c <;> simp [h, pure, Except.pure, throw, throwThe, MonadExceptOf.throw]

/-- A check that refuses before the rest succeeds exactly when it does not apply and the rest
succeeds. -/
theorem refuse_eq_ok {c : Prop} [Decidable c] {next : α → Except ε β} {rest : Except ε β} {e : ε}
    {result : β} :
    (if c then (throw e : Except ε α) >>= next else rest) = .ok result ↔ ¬ c ∧ rest = .ok result := by
  by_cases h : c <;> simp [h, bind, Except.bind, throw, throwThe, MonadExceptOf.throw]

end PaymentChannel.Outcome
