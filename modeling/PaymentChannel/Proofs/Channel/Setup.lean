import PaymentChannel.Proofs.Channel.Effect
import PaymentChannel.Proofs.Template.Recognition

/-! What a channel is set up with: the keys, the spend secret and the deposit. Requests about commits
leave all of it alone, and a deposit that is there stays until the channel is cleared or loaded. -/
namespace PaymentChannel.Channel

variable {σ : Type} {oracle : Oracle σ} {before after : State}

theorem State.depositTerms_eq_ok {state : State} {deposit : DepositTerms} :
    state.depositTerms = .ok deposit ↔ state.depositScript = some deposit.toScript := by
  rw [depositTerms, requireDepositScript]
  cases state.depositScript with
  | none => simp [bind, Except.bind]
  | some script =>
    change DepositTerms.ofScript script = .ok deposit ↔ some script = some deposit.toScript
    rw [DepositTerms.ofScript_eq_ok_iff, Option.some.injEq]

/-- The keys, the spend secret and the deposit are as they were. -/
structure SameSetup (before after : State) : Prop where
  payerKey : after.payerKey = before.payerKey
  payeeKey : after.payeeKey = before.payeeKey
  spendSecret : after.spendSecret = before.spendSecret
  depositScript : after.depositScript = before.depositScript
  depositTransaction : after.depositTransaction = before.depositTransaction

theorem Ordered.sameSetup {quantities : List UInt64}
    (ordered : Ordered oracle before quantities after) : SameSetup before after := by
  rw [ordered.frame]
  exact ⟨rfl, rfl, rfl, rfl, rfl⟩

theorem Reordered.sameSetup (order : Reordered oracle before after) : SameSetup before after := by
  rcases order with rfl | ⟨quantities, ordered⟩
  · exact ⟨rfl, rfl, rfl, rfl, rfl⟩
  · exact ordered.sameSetup

theorem Moves.sameSetup (moves : Moves before after) : SameSetup before after := by
  rw [moves.frame]
  exact ⟨rfl, rfl, rfl, rfl, rfl⟩

theorem Added.sameSetup {tx : Transaction} {script : Script}
    (added : Added oracle tx script before after) : SameSetup before after := by
  cases added with
  | intro _ _ _ _ _ _ ordered =>
    have same := ordered.sameSetup
    exact ⟨same.payerKey, same.payeeKey, same.spendSecret, same.depositScript,
      same.depositTransaction⟩

/-- What there was of a deposit is still there. -/
def KeepsDeposit (before after : State) : Prop :=
  (∀ script, before.depositScript = some script → after.depositScript = some script) ∧
    ∀ tx, before.depositTransaction = some tx → after.depositTransaction = some tx

theorem SameSetup.keepsDeposit (same : SameSetup before after) : KeepsDeposit before after :=
  ⟨fun _ there => same.depositScript.trans there, fun _ there => same.depositTransaction.trans there⟩

/-- Whether a success of the request may replace a deposit that is there. -/
def Request.replacesDeposit : Request → Bool
  | .load _ | .clear => true
  | _ => false

theorem Effect.keepsDeposit {request : Request} {ok : Bool}
    (effect : Effect oracle request ok before after)
    (kept : ok = true → request.replacesDeposit = false) : KeepsDeposit before after := by
  cases effect with
  | reordered _ order => exact order.sameSetup.keepsDeposit
  | loaded | cleared => cases kept rfl
  | payerKey set =>
    obtain ⟨rfl, -⟩ := State.setPayerKey_eq_ok set
    exact ⟨fun _ there => there, fun _ there => there⟩
  | payeeKey set =>
    obtain ⟨rfl, -⟩ := State.setPayeeKey_eq_ok set
    exact ⟨fun _ there => there, fun _ there => there⟩
  | deposit set =>
    obtain ⟨_, -, sameScript, sameTransaction, -, -, -, rfl⟩ := State.setDeposit_eq_ok.mp set
    exact ⟨fun other there => congrArg some (sameScript other there).symm,
      fun other there => congrArg some (sameTransaction other there).symm⟩
  | timeoutTransaction | changeTransaction | spendSecret | requested =>
    exact ⟨fun _ there => there, fun _ there => there⟩
  | added add => exact add.sameSetup.keepsDeposit
  | revoked revoke => exact (State.moves_of_revoke revoke).sameSetup.keepsDeposit
  | revokedAll moves => exact moves.sameSetup.keepsDeposit

end PaymentChannel.Channel
