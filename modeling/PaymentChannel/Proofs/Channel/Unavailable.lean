import PaymentChannel.Proofs.Channel.Failure
import PaymentChannel.Proofs.Channel.Sorting

/-! What a request leaves behind when the oracle fails it. The quantities of the active commits are
all asked for before these are put in order, and most requests ask for nothing after that. Checking a
quantity does: it asks for the deposit last, and where just this lookup fails, the commits stay in
the order that they were brought into, which may be a new one. -/
namespace PaymentChannel

theorem Fault.kind_eq_oracleUnavailable {fault : Fault} :
    fault.kind = .oracleUnavailable ↔ ∃ error, fault = .oracle error := by
  cases fault <;> simp [kind]

namespace Channel

variable {σ α β : Type} {oracle : Oracle σ}

namespace Action

/-- Where the action ends because the oracle has failed, it leaves this state. -/
def LeavesUnanswered (action : Action σ α) (state : State) (before : Session σ) : Prop :=
  ∀ error, (action before).1 = .error (.oracle error) → (action before).2.state = state

namespace LeavesUnanswered

variable {action : Action σ α} {state : State} {before : Session σ}

theorem of_same (same : (action before).2.state = state) : LeavesUnanswered action state before :=
  fun _ _ => same

theorem of_answered (answered : ∀ error, (action before).1 ≠ .error (.oracle error)) :
    LeavesUnanswered action state before :=
  fun error failed => (answered error failed).elim

theorem bind {next : α → Action σ β} (start : LeavesUnanswered action state before)
    (rest : ∀ value middle, action before = (.ok value, middle) →
      LeavesUnanswered (next value) state middle) :
    LeavesUnanswered (action >>= next) state before := by
  intro error
  change (ExceptT.bindCont next (action before).1 (action before).2).1 = _ →
    (ExceptT.bindCont next (action before).1 (action before).2).2.state = state
  cases ended : action before with
  | mk result middle =>
    cases result with
    | error fault =>
      intro failed
      cases failed
      have left := start error (by rw [ended])
      rwa [ended] at left
    | ok value => exact rest value middle ended error

theorem ite {c : Prop} [Decidable c] {first second : Action σ α}
    (pass : c → LeavesUnanswered first state before)
    (fail : ¬ c → LeavesUnanswered second state before) :
    LeavesUnanswered (if c then first else second) state before := by
  split
  · exact pass ‹c›
  · exact fail ‹¬ c›

end LeavesUnanswered

open LeavesUnanswered

variable {before : Session σ}

theorem orderActive_leaves : LeavesUnanswered (orderActive oracle) before.state before :=
  fun _ failed => ((orderActive_ends before.state).of_error failed).2

theorem transferredAmount_leaves : LeavesUnanswered (transferredAmount oracle) before.state before :=
  orderActive_leaves.bind fun _ _ _ => .of_answered nofun

end Action

namespace State

/-- Where putting the active commits in order moves any of them, the oracle answers for the deposit if
it is asked next. -/
def AnswersDepositLast (oracle : Oracle σ) (state : State) (chain : σ) : Prop :=
  ∀ quantities sorted later, order oracle state chain = (.ok (quantities, sorted), later) →
    sorted ≠ state → ∀ tx, state.depositTransaction = some tx → (oracle.quantity tx later).1.isOk

theorem depositTotal_answered {state : State} {chain : σ}
    (answered : ∀ tx, state.depositTransaction = some tx → (oracle.quantity tx chain).1.isOk)
    (error : OracleError) : (depositTotal oracle state chain).1 ≠ .error (.oracle error) := by
  cases there : state.depositTransaction with
  | none =>
    rw [depositTotal, requireDepositTransaction_of_none there]
    intro impossible
    cases impossible
  | some tx =>
    have known := answered tx there
    cases asked : oracle.quantity tx chain with
    | mk result later =>
      cases result with
      | error cause =>
        rw [asked] at known
        cases known
      | ok total =>
        rw [depositTotal_eq_ok.mpr ⟨tx, there, asked⟩]
        intro impossible
        cases impossible

end State

namespace Action
open LeavesUnanswered

variable {before : Session σ}

theorem validateTransfer_leaves {quantity : UInt64}
    (answered : before.state.AnswersDepositLast oracle before.chain) :
    LeavesUnanswered (validateTransfer oracle quantity) before.state before := by
  refine transferredAmount_leaves.bind fun transferred middle amount => ?_
  obtain ⟨quantities, ordered, -⟩ := transferredAmount_eq_ok.mp amount
  by_cases same : middle.state = before.state
  · -- nothing has moved so far, and nothing will
    refine .ite (fun _ => .of_same same) fun _ => .bind (.of_same same) fun total _ asked => ?_
    obtain ⟨later, -, rfl⟩ := ask_eq_ok.mp asked
    exact .ite (fun _ => .of_same same) fun _ => .of_same same
  · have known (tx : Transaction) (there : middle.state.depositTransaction = some tx) :
        (oracle.quantity tx middle.chain).1.isOk := by
      rw [(State.ordered_of_order ordered).frame] at there
      exact answered quantities middle.state middle.chain ordered same tx there
    refine .ite (fun _ => .of_answered nofun) fun _ => ?_
    refine .bind (.of_answered (State.depositTotal_answered known)) fun total _ _ => ?_
    exact .ite (fun _ => .of_answered nofun) fun _ => .of_answered nofun

theorem validateTransfer_of_unanswered {quantity : UInt64} {quantities : List UInt64}
    {state sorted : State} {chain middle later : σ} {tx : Transaction} {error : OracleError}
    (ordered : State.order oracle state chain = (.ok (quantities, sorted), middle))
    (above : highest quantities < quantity) (there : sorted.depositTransaction = some tx)
    (failed : oracle.quantity tx middle = (.error error, later)) :
    validateTransfer oracle quantity ⟨state, chain⟩ = (.error (.oracle error), ⟨sorted, later⟩) := by
  have amount : transferredAmount oracle ⟨state, chain⟩ =
      (.ok (highest quantities), ⟨sorted, middle⟩) :=
    transferredAmount_eq_ok.mpr ⟨quantities, ordered, rfl⟩
  have missed : State.depositTotal oracle sorted middle = (.error (.oracle error), later) := by
    rw [State.depositTotal, bind_eq (lift_eq (State.requireDepositTransaction_eq_ok.mpr there) middle),
      State.quantityOf, Ask.lookup, failed]
  have asked : ask (State.depositTotal oracle) ⟨sorted, middle⟩ =
      (.error (.oracle error), ⟨sorted, later⟩) := by
    simp only [ask, missed]
  rw [validateTransfer, bind_eq amount, if_neg (UInt64.not_le.mpr above)]
  exact bind_eq_of_error asked

/-- A deposit that the oracle never answers for is missed once the commits are in order. -/
theorem validateTransfer_of_fixed_unanswered {quantity : Transaction → UInt64}
    {answers : Transaction → Prop} {state : State} {chain : σ} {n : UInt64} {tx : Transaction}
    (fixed : oracle.IsFixed quantity answers chain)
    (known : ∀ commit ∈ state.active, answers commit.transaction)
    (above : ∀ commit ∈ state.active, quantity commit.transaction < n) (positive : 0 < n)
    (there : state.depositTransaction = some tx) (unanswered : ¬ answers tx) :
    ∃ error later, validateTransfer oracle n ⟨state, chain⟩ =
      (.error (.oracle error), ⟨state.sorted quantity, later⟩) := by
  obtain ⟨middle, ordered, fixed⟩ := State.order_of_fixed fixed known
  obtain ⟨error, later, failed⟩ := fixed.exists_error unanswered
  have transferred := State.highest_sorted_lt_iff.mpr ⟨positive, above⟩
  exact ⟨error, later, validateTransfer_of_unanswered ordered transferred there failed⟩

theorem addCommit_leaves {tx : Transaction} {script : Script}
    (answered : before.state.AnswersDepositLast oracle (oracle.quantity tx before.chain).2) :
    LeavesUnanswered (addCommit oracle tx script) before.state before := by
  refine .bind (.of_same rfl) fun terms _ read => ?_
  obtain ⟨-, rfl⟩ := lift_eq_ok.mp read
  refine .bind (.of_same rfl) fun state _ found => ?_
  obtain ⟨rfl, rfl⟩ := getState_eq_ok.mp found
  refine .bind (.of_same rfl) fun deposit _ funded => ?_
  obtain ⟨-, rfl⟩ := lift_eq_ok.mp funded
  refine .ite (fun _ => .of_same rfl) fun _ => .ite (fun _ => .of_same rfl) fun _ => ?_
  refine .bind (.of_same rfl) fun used _ looked => ?_
  obtain ⟨-, rfl⟩ := lift_eq_ok.mp looked
  refine .ite (fun _ => .of_same rfl) fun _ => .bind (.of_same rfl) fun quantity _ asked => ?_
  obtain ⟨later, carried, rfl⟩ := ask_eq_ok.mp asked
  rw [State.quantityOf_eq_ok.mp carried] at answered
  exact .bind (validateTransfer_leaves answered) fun _ _ _ => .of_answered nofun

theorem depositRemaining_leaves : LeavesUnanswered (depositRemaining oracle) before.state before := by
  refine .bind (.of_same rfl) fun total _ asked => ?_
  obtain ⟨later, -, rfl⟩ := ask_eq_ok.mp asked
  refine transferredAmount_leaves.bind fun transferred _ _ => ?_
  exact .ite (fun _ => .of_answered nofun) fun _ => .of_answered nofun

theorem view_leaves (f : State → Except Fault α) :
    LeavesUnanswered (view f) before.state before :=
  .of_same (view_ends before.state f before.chain).2

theorem update_leaves (f : State → Except Fault State) :
    LeavesUnanswered (update f) before.state before :=
  fun _ failed => ((update_ends before.state f).of_error failed).2

theorem revoke_leaves {secret : Secret} : LeavesUnanswered (revoke secret) before.state before :=
  fun _ failed => (revoke_ends before.state secret).of_error failed

theorem load_leaves {snapshot : Snapshot} :
    LeavesUnanswered (load oracle snapshot) before.state before :=
  fun _ failed => (load_ends before.state snapshot).of_error failed

end Action

/-- Where the request checks a quantity, and puts the active commits in a new order for that, the
oracle answers for the deposit too. -/
def Event.AnswersDepositLast (oracle : Oracle σ) (state : State) (event : Event σ) : Prop :=
  match event.request with
  | .validateTransfer _ => state.AnswersDepositLast oracle event.chain
  | .addCommit tx _ => state.AnswersDepositLast oracle (oracle.quantity tx event.chain).2
  | _ => True

open PaymentChannel.Channel.Action in
theorem serve_leaves {config : Config} {state : State} (valid : state.IsValid) (event : Event σ)
    (answered : event.AnswersDepositLast oracle state) :
    LeavesUnanswered (serve oracle config event.request) state ⟨state, event.chain⟩ := by
  obtain ⟨request, chain⟩ := event
  cases request
  case save | activeCommits => exact orderActive_leaves.bind fun _ _ _ => .of_answered nofun
  case transferredAmount => exact transferredAmount_leaves
  case depositRemaining => exact depositRemaining_leaves
  case validateTransfer quantity => exact validateTransfer_leaves answered
  case addCommit tx script => exact addCommit_leaves answered
  case load snapshot => exact load_leaves
  case depositConfirmations | timeoutConfirmations | changeConfirmations | isDepositConfirmed |
      isDepositExpired | isTimeoutConfirmed | isChangeConfirmed | isClosing | isClosed |
      depositTotal | requestedCommits | revokedCommits =>
    exact .of_same rfl
  case expireTime | spendHash | makeDepositScript | makeCommitScript | signTimeout | signChange |
      signCreateCommit | signFinalizeCommit | signPayout | signRevoke => exact view_leaves _
  case setPayerKey | setPayeeKey | setDeposit => exact update_leaves _
  case clear | setTimeoutTransaction | setChangeTransaction | setSpendSecret | requestCommit =>
    exact .of_answered nofun
  case revoke secret => exact revoke_leaves
  case revokeAll secrets =>
    obtain ⟨found, after, revocations⟩ := valid.exists_revocations secrets
    have revoked := revokeAll_eq revocations chain
    refine .of_answered fun error failed => ?_
    cases failed.symm.trans (congrArg Prod.fst revoked)

/-- After every run, a request that the oracle fails leaves the whole channel as it was, the order of
the active commits included, unless it checks a quantity and the oracle fails it for the deposit
alone, once the commits have a new order. -/
theorem unanswered_requests_keep_state (oracle : Oracle σ) (config : Config)
    (events : List (Event σ)) (event : Event σ) (fault : Fault)
    (failed : event.result oracle config (run oracle config events) = .error fault)
    (unavailable : fault.kind = .oracleUnavailable)
    (answered : event.AnswersDepositLast oracle (run oracle config events)) :
    event.next oracle config (run oracle config events) = run oracle config events := by
  obtain ⟨error, rfl⟩ := Fault.kind_eq_oracleUnavailable.mp unavailable
  exact serve_leaves (run_isValid oracle config events) event answered error failed

namespace Sample

/-- What a transaction leaves of a hundred. -/
def left (tx : Transaction) : UInt64 := 100 - carried tx

/-- Answers what transactions carry, until it turns: then what they leave, and fails for one. -/
def turningOracle : Oracle (Option Transaction) where
  confirmations _ silent := (.error (.notFound ""), silent)
  quantity tx silent :=
    match silent with
    | none => (.ok (carried tx), silent)
    | some failing =>
      (if tx = failing then .error (.unavailable "") else .ok (left tx), silent)

def twoCommits : List (Event (Option Transaction)) := [⟨fund, none⟩, ⟨add 1, none⟩, ⟨add 2, none⟩]

theorem turningOracle_isFixed (failing : Transaction) :
    turningOracle.IsFixed left (· ≠ failing) (some failing) := by
  refine Oracle.isFixed_of_unchanged (fun _ => rfl) fun tx n => ?_
  by_cases same : tx = failing
  · simp [turningOracle, same]
  · simp [turningOracle, same, eq_comm]

theorem run_twoCommits : run turningOracle {} twoCommits = (listing [1, 2]).toState := by
  decide +kernel

def check (failing : Transaction) : Event (Option Transaction) := ⟨.validateTransfer 95, some failing⟩

end Sample

/-- The oracle fails for the second commit. -/
theorem unanswered_requests_keep_state_second :
    let before := run Sample.turningOracle {} Sample.twoCommits
    let event := Sample.check (.placeholder 2 20)
    ∃ fault : Fault, event.result Sample.turningOracle {} before = .error fault ∧
      fault.kind = .oracleUnavailable ∧ event.AnswersDepositLast Sample.turningOracle before ∧
      event.next Sample.turningOracle {} before = before := by
  intro before event
  have failed : event.result Sample.turningOracle {} before =
      .error (.oracle (.unavailable "")) := by
    change event.result _ _ (run _ _ _) = _
    rw [Sample.run_twoCommits]
    rfl
  have answered : event.AnswersDepositLast Sample.turningOracle before := by
    intro quantities sorted later ordered
    change State.order _ (run _ _ _) _ = _ at ordered
    rw [Sample.run_twoCommits] at ordered
    cases ordered
  exact ⟨_, failed, rfl, answered, unanswered_requests_keep_state Sample.turningOracle {}
    Sample.twoCommits event _ failed rfl answered⟩

/-- The oracle fails for the deposit. -/
theorem deposit_failure_reorders :
    let before := run Sample.turningOracle {} Sample.twoCommits
    let event := Sample.check (.placeholder 0 100)
    ∃ fault : Fault, event.result Sample.turningOracle {} before = .error fault ∧
      fault.kind = .oracleUnavailable ∧ event.next Sample.turningOracle {} before ≠ before := by
  intro before event
  have start : before = (Sample.listing [1, 2]).toState := Sample.run_twoCommits
  have known : ∀ commit ∈ (Sample.listing [1, 2]).toState.active,
      commit.transaction ≠ .placeholder 0 100 := by decide +kernel
  have above : ∀ commit ∈ (Sample.listing [1, 2]).toState.active,
      Sample.left commit.transaction < 95 := by decide +kernel
  have fixed := Sample.turningOracle_isFixed (.placeholder 0 100)
  obtain ⟨error, later, ended⟩ := Action.validateTransfer_of_fixed_unanswered fixed known above
    (by decide) rfl fun answered => answered rfl
  refine ⟨.oracle error, ?_, rfl, fun same => ?_⟩
  · rw [start]
    exact congrArg Prod.fst ended
  · rw [start] at same
    have moved : (Sample.listing [1, 2]).toState.sorted Sample.left =
        (Sample.listing [1, 2]).toState := (congrArg (·.2.state) ended).symm.trans same
    -- the first commit now carries more than the second
    have ascending := State.ascending_sorted Sample.left (Sample.listing [1, 2]).toState
    rw [moved] at ascending
    exact absurd ascending (by decide +kernel)

end Channel
end PaymentChannel
