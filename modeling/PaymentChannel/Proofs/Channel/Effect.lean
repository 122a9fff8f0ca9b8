import PaymentChannel.Proofs.Channel.Deposit
import PaymentChannel.Proofs.Channel.Order
import PaymentChannel.Proofs.Channel.Revocation

/-! All that a request can do to a channel. Each case of `Effect` is one way in which the state after
a request differs from the state before, with the checks that let it happen; `serve_effect` says
that there are no others, so that what every request keeps is shown case by case. -/
namespace PaymentChannel

theorem Snapshot.restore_eq_ok {snapshot : Snapshot} {state : Channel.State} :
    snapshot.restore = .ok state ↔ snapshot.check = .ok () ∧ state = snapshot.toState := by
  rw [Snapshot.restore, Outcome.bind_eq_ok]
  constructor
  · rintro ⟨_, checked, ok⟩
    cases ok
    exact ⟨checked, rfl⟩
  · rintro ⟨checked, rfl⟩
    exact ⟨(), checked, rfl⟩

namespace Channel

/-- Whether a success of the request may change more than the order of the active commits. -/
def Request.changes : Request → Bool
  | .load _ | .clear | .setPayerKey _ | .setPayeeKey _ | .setDeposit .. | .setTimeoutTransaction _
  | .setChangeTransaction _ | .setSpendSecret _ | .requestCommit _ | .addCommit .. | .revoke _
  | .revokeAll _ => true
  | _ => false

variable {σ : Type}

/-- What is loaded from a snapshot: its own fields, with active commits whose quantities are
distinct, above zero and within the deposit. -/
structure Loaded (oracle : Oracle σ) (snapshot : Snapshot) (quantities : List UInt64)
    (after : State) : Prop where
  checked : snapshot.check = .ok ()
  ordered : Ordered oracle snapshot.toState quantities after
  distinct : quantities.Pairwise (· < ·)
  positive : ∀ n ∈ quantities, 0 < n
  within : ∀ tx, snapshot.depositTransaction = some tx → quantities ≠ [] →
    ∃ total, oracle.MayAnswer tx total ∧ highest quantities ≤ total

/-- A commit of the channel's own terms, with a revoke hash not in use and a quantity above all that
are active, is put behind the others, which are in order; the first request for it is met. -/
inductive Added (oracle : Oracle σ) (tx : Transaction) (script : Script) (before : State) :
    State → Prop
  | intro {terms : CommitTerms} {deposit : DepositTerms} {quantities : List UInt64}
      {middle : State} {quantity total : UInt64} {depositTx : Transaction}
      (written : CommitTerms.ofScript script = .ok terms)
      (funded : before.depositTerms = .ok deposit)
      (payer : terms.payer = deposit.payer) (payee : terms.payee = deposit.payee)
      (spendHash : terms.spendHash = deposit.spendHash)
      (unused : before.usesRevokeHash terms.revokeHash = .ok false)
      (ordered : Ordered oracle before quantities middle)
      (carried : oracle.MayAnswer tx quantity) (above : highest quantities < quantity)
      (deposited : before.depositTransaction = some depositTx)
      (answered : oracle.MayAnswer depositTx total) (within : quantity ≤ total) :
    Added oracle tx script before
      { middle with
        requested := middle.requested.eraseP (·.hash == terms.revokeHash)
        active := middle.active ++ [{ transaction := tx, script }] }

/-- What a request may do to a state, told apart by whether it succeeds. -/
inductive Effect (oracle : Oracle σ) : Request → Bool → State → State → Prop
  | reordered {request ok before after} (idle : ok = true → request.changes = false)
      (order : Reordered oracle before after) : Effect oracle request ok before after
  | loaded {snapshot before quantities after} (load : Loaded oracle snapshot quantities after) :
    Effect oracle (.load snapshot) true before after
  | cleared {before} : Effect oracle .clear true before {}
  | payerKey {key before after} (set : before.setPayerKey key = .ok after) :
    Effect oracle (.setPayerKey key) true before after
  | payeeKey {key before after} (set : before.setPayeeKey key = .ok after) :
    Effect oracle (.setPayeeKey key) true before after
  | deposit {script tx before after} (set : before.setDeposit script tx = .ok after) :
    Effect oracle (.setDeposit script tx) true before after
  | timeoutTransaction {tx before} :
    Effect oracle (.setTimeoutTransaction tx) true before (before.setTimeoutTransaction tx)
  | changeTransaction {tx before} :
    Effect oracle (.setChangeTransaction tx) true before (before.setChangeTransaction tx)
  | spendSecret {secret before} :
    Effect oracle (.setSpendSecret secret) true before (before.setSpendSecret secret)
  | requested {secret before} :
    Effect oracle (.requestCommit secret) true before (before.requestCommit secret)
  | added {tx script before after} (add : Added oracle tx script before after) :
    Effect oracle (.addCommit tx script) true before after
  | revoked {secret before found after} (revoke : before.revoke secret = .ok (found, after)) :
    Effect oracle (.revoke secret) true before after
  | revokedAll {secrets ok before after} (moves : Moves before after) :
    Effect oracle (.revokeAll secrets) ok before after

/-- What a request may do to the commits. -/
inductive CommitEffect (oracle : Oracle σ) : Request → Bool → State → State → Prop
  | kept {request ok before after} (active : after.active = before.active)
      (revoked : after.revoked = before.revoked) : CommitEffect oracle request ok before after
  | ordered {request ok before quantities after} (order : Ordered oracle before quantities after) :
    CommitEffect oracle request ok before after
  | loaded {snapshot before quantities after} (load : Loaded oracle snapshot quantities after) :
    CommitEffect oracle (.load snapshot) true before after
  | cleared {before} : CommitEffect oracle .clear true before {}
  | added {tx script before after} (add : Added oracle tx script before after) :
    CommitEffect oracle (.addCommit tx script) true before after
  | moved {request ok before after} (moves : Moves before after) :
    CommitEffect oracle request ok before after

variable {oracle : Oracle σ}

theorem Effect.on_commits {request : Request} {ok : Bool} {before after : State}
    (effect : Effect oracle request ok before after) :
    CommitEffect oracle request ok before after := by
  cases effect with
  | reordered _ order =>
    rcases order with rfl | ⟨quantities, ordered⟩
    · exact .kept rfl rfl
    · exact .ordered ordered
  | loaded load => exact .loaded load
  | cleared => exact .cleared
  | payerKey set =>
    obtain ⟨rfl, -⟩ := State.setPayerKey_eq_ok set
    exact .kept rfl rfl
  | payeeKey set =>
    obtain ⟨rfl, -⟩ := State.setPayeeKey_eq_ok set
    exact .kept rfl rfl
  | deposit set =>
    obtain ⟨_, _, _, _, _, _, _, rfl⟩ := State.setDeposit_eq_ok.mp set
    exact .kept rfl rfl
  | timeoutTransaction | changeTransaction | spendSecret | requested => exact .kept rfl rfl
  | added add => exact .added add
  | revoked revoke => exact .moved (State.moves_of_revoke revoke)
  | revokedAll moves => exact .moved moves

namespace Action

/-- Among quantities in ascending order, those that are equal are neighbours, -/
theorem firstRepeat_eq_none_iff {quantities : List UInt64}
    (ascending : quantities.Pairwise (· ≤ ·)) :
    firstRepeat quantities = none ↔ quantities.Pairwise (· < ·) := by
  induction quantities with
  | nil => simp [firstRepeat]
  | cons first rest ih =>
    obtain ⟨below, ascending⟩ := List.pairwise_cons.mp ascending
    cases rest with
    | nil => simp [firstRepeat]
    | cons second rest =>
      rw [firstRepeat, List.pairwise_cons, ← ih ascending]
      split
      · rename_i same
        simp [same]
      · rename_i different
        have next : first < second := UInt64.lt_of_le_of_ne (below second (by simp)) different
        refine (and_iff_right_of_imp fun distinct n member => ?_).symm
        rcases List.mem_cons.mp member with rfl | inside
        · exact next
        · exact UInt64.lt_trans next ((List.pairwise_cons.mp ((ih ascending).mp distinct)).1 n inside)

/-- and a zero is the first. -/
theorem head_ne_zero_iff {quantities : List UInt64} (ascending : quantities.Pairwise (· ≤ ·)) :
    quantities.head? ≠ some 0 ↔ ∀ n ∈ quantities, 0 < n := by
  cases quantities with
  | nil => simp
  | cons first rest =>
    rw [List.forall_mem_cons, List.head?_cons, ne_eq, Option.some.injEq, ← ne_eq,
      ← UInt64.pos_iff_ne_zero]
    refine (and_iff_left_of_imp fun positive n inside => ?_).symm
    exact UInt64.lt_of_lt_of_le positive ((List.pairwise_cons.mp ascending).1 n inside)

theorem load_ends (before : State) (snapshot : Snapshot) :
    (load oracle snapshot).Ends before fun result after =>
      match result with
      | .ok _ => ∃ quantities, Loaded oracle snapshot quantities after
      | .error _ => after = before := by
  refine ends_bind (ends_lift ?_)
  cases restored : snapshot.restore with
  | error fault => rfl
  | ok state =>
    obtain ⟨checked, rfl⟩ := Snapshot.restore_eq_ok.mp restored
    refine ends_bind (ends_ask ((State.order_gives snapshot.toState).mono ?_))
    intro result given
    cases result with
    | error fault => rfl
    | ok answer =>
      obtain ⟨quantities, loaded⟩ := answer
      change Ordered oracle snapshot.toState quantities loaded at given
      cases distinct : firstRepeat quantities with
      | some quantity =>
        simp only [distinct]
        exact ends_bind (ends_throw rfl)
      | none =>
        simp only [distinct]
        refine ends_ite (fun _ => ends_bind (ends_throw rfl)) fun head => ?_
        have strict := (firstRepeat_eq_none_iff given.ascending).mp distinct
        have positive := (head_ne_zero_iff given.ascending).mp head
        have sameDeposit : loaded.depositTransaction = snapshot.depositTransaction := by
          rw [given.frame]
          rfl
        split
        · rename_i greatest tx last deposit
          refine ends_bind (ends_ask ((State.depositTotal_gives loaded).mono ?_))
          intro result total
          cases result with
          | error fault => rfl
          | ok total =>
            refine ends_ite (fun _ => ends_bind (ends_throw rfl)) fun within => ends_setState ?_
            obtain ⟨found, there, answered⟩ := total
            refine ⟨quantities, checked, given, strict, positive, fun tx there' _ => ?_⟩
            cases (sameDeposit.symm.trans there).symm.trans there'
            refine ⟨_, answered, ?_⟩
            rw [highest, last]
            exact UInt64.not_lt.mp within
        · rename_i absent
          refine ends_setState ⟨quantities, checked, given, strict, positive, fun tx there some => ?_⟩
          exact (absent (quantities.getLast some) tx (List.getLast?_eq_some_getLast some)
            (sameDeposit.trans there)).elim

theorem addCommit_ends (before : State) (tx : Transaction) (script : Script) :
    (addCommit oracle tx script).Ends before fun result after =>
      match result with
      | .ok _ => Added oracle tx script before after
      | .error _ => Reordered oracle before after := by
  refine ends_bind (ends_lift ?_)
  cases written : CommitTerms.ofScript script with
  | error fault => exact .inl rfl
  | ok terms =>
    refine ends_bind (ends_getState (ends_bind (ends_lift ?_)))
    cases funded : before.depositTerms with
    | error fault => exact .inl rfl
    | ok deposit =>
      refine ends_ite (fun _ => ends_bind (ends_throw (.inl rfl))) fun keys => ?_
      refine ends_ite (fun _ => ends_bind (ends_throw (.inl rfl))) fun spendHash => ?_
      refine ends_bind (ends_lift ?_)
      cases used : before.usesRevokeHash terms.revokeHash with
      | error fault => exact .inl rfl
      | ok found =>
        refine ends_ite (fun _ => ends_bind (ends_throw (.inl rfl))) fun unused => ?_
        refine ends_bind (ends_ask ((State.quantityOf_gives tx).mono ?_))
        intro result carried
        cases result with
        | error fault => exact .inl rfl
        | ok quantity =>
          refine ends_bind ((validateTransfer_ends before quantity).mono ?_)
          intro result middle ends
          cases result with
          | error fault => exact ends
          | ok _ =>
            obtain ⟨quantities, depositTx, total, ordered, above, deposited, answered, within⟩ := ends
            rw [not_or, not_not, not_not] at keys
            rw [Bool.not_eq_true] at unused
            exact ends_bind (ends_getState (ends_setState (.intro written funded keys.1 keys.2
              (not_not.mp spendHash) (unused ▸ used) ordered carried above deposited answered within)))

theorem view_ends {α : Type} (before : State) (f : State → Except Fault α) :
    (view f : Action σ α).Ends before fun result after => result = f before ∧ after = before :=
  ends_bind (ends_getState (ends_lift ⟨rfl, rfl⟩))

theorem update_ends (before : State) (f : State → Except Fault State) :
    (update f : Action σ Unit).Ends before fun result after =>
      match result with
      | .ok _ => f before = .ok after
      | .error fault => f before = .error fault ∧ after = before := by
  refine ends_bind (ends_getState (ends_bind (ends_lift ?_)))
  cases ok : f before with
  | error fault => exact ⟨rfl, rfl⟩
  | ok after => exact ends_setState rfl

end Action

open PaymentChannel.Channel.Action

theorem serve_effect (oracle : Oracle σ) (config : Config) (request : Request) (before : State) :
    (serve oracle config request).Ends before fun result after =>
      Effect oracle request result.isOk before after := by
  cases request
  case save => exact (save_ends before).mono fun _ _ ends => .reordered (fun _ => rfl) ends.1
  case transferredAmount =>
    exact (transferredAmount_reorders before).mono fun _ _ order => .reordered (fun _ => rfl) order
  case depositRemaining =>
    exact (depositRemaining_ends before).mono fun _ _ ends => .reordered (fun _ => rfl) ends.1
  case validateTransfer quantity =>
    exact (validateTransfer_reorders before quantity).mono fun _ _ order =>
      .reordered (fun _ => rfl) order
  case activeCommits =>
    exact (activeCommits_reorders before).mono fun _ _ order => .reordered (fun _ => rfl) order
  case requestedCommits | revokedCommits =>
    exact ends_bind (ends_getState (ends_pure (.reordered (fun _ => rfl) (.inl rfl))))
  case depositConfirmations | timeoutConfirmations | changeConfirmations | isDepositConfirmed |
      isDepositExpired | isTimeoutConfirmed | isChangeConfirmed | isClosing | isClosed |
      depositTotal =>
    rw [serve]
    exact ends_ask fun _ => .reordered (fun _ => rfl) (.inl rfl)
  case expireTime | spendHash | makeDepositScript | makeCommitScript | signTimeout | signChange |
      signCreateCommit | signFinalizeCommit | signPayout | signRevoke =>
    exact (view_ends before _).mono fun _ _ ends => .reordered (fun _ => rfl) (.inl ends.2)
  case load snapshot =>
    refine (load_ends before snapshot).mono ?_
    intro result after ends
    cases result with
    | error fault => exact .reordered Bool.noConfusion (.inl ends)
    | ok _ =>
      obtain ⟨quantities, load⟩ := ends
      exact .loaded load
  case clear => exact ends_setState .cleared
  case setPayerKey key =>
    refine (update_ends before _).mono ?_
    intro result after ends
    cases result with
    | error fault => exact .reordered Bool.noConfusion (.inl ends.2)
    | ok _ => exact .payerKey ends
  case setPayeeKey key =>
    refine (update_ends before _).mono ?_
    intro result after ends
    cases result with
    | error fault => exact .reordered Bool.noConfusion (.inl ends.2)
    | ok _ => exact .payeeKey ends
  case setDeposit script tx =>
    refine (update_ends before _).mono ?_
    intro result after ends
    cases result with
    | error fault => exact .reordered Bool.noConfusion (.inl ends.2)
    | ok _ => exact .deposit ends
  case setTimeoutTransaction tx =>
    exact ends_bind (ends_getState (ends_setState .timeoutTransaction))
  case setChangeTransaction tx =>
    exact ends_bind (ends_getState (ends_setState .changeTransaction))
  case setSpendSecret secret => exact ends_bind (ends_getState (ends_setState .spendSecret))
  case requestCommit secret => exact ends_bind (ends_getState (ends_setState .requested))
  case addCommit tx script =>
    refine (addCommit_ends before tx script).mono ?_
    intro result after ends
    cases result with
    | error fault => exact .reordered Bool.noConfusion ends
    | ok _ => exact .added ends
  case revoke secret =>
    refine (revoke_ends before secret).mono ?_
    intro result after ends
    cases result with
    | error fault => exact .reordered Bool.noConfusion (.inl ends)
    | ok found => exact .revoked ends
  case revokeAll secrets =>
    exact (revokeAll_ends before secrets).mono fun _ _ moves => .revokedAll moves

end Channel
end PaymentChannel
