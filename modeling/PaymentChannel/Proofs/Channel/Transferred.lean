import PaymentChannel.Proofs.Channel.Bookkeeping
import PaymentChannel.Proofs.Channel.Failure
import PaymentChannel.Proofs.Channel.Remaining

/-! How the transferred amount moves. It is stored nowhere, but found from what the active commits
carry; while the oracle's quantities do not change, the last commit carries it. So adding a commit,
which goes behind the others, raises it to the quantity of the new one, revoking the last commit
brings it down to the one before, and revoking any other leaves it where it is. -/
namespace PaymentChannel.Channel

variable {σ : Type} {oracle : Oracle σ} {config : Config} {quantity : Transaction → UInt64}

/-- Whether the request may change which commits are active. -/
def Request.changesActive : Request → Bool
  | .addCommit .. | .revoke _ | .revokeAll _ | .clear | .load _ => true
  | _ => false

theorem Effect.active_eq {request : Request} {ok : Bool} {before after : State}
    (effect : Effect oracle request ok before after) (steady : oracle.IsSteady quantity)
    (ascending : before.IsAscending quantity) (kept : request.changesActive = false) :
    after.active = before.active := by
  cases effect with
  | reordered _ order => rw [order.eq_of_ascending steady ascending]
  | loaded | cleared | added | revoked | revokedAll => cases kept
  | payerKey set =>
    obtain ⟨rfl, -⟩ := State.setPayerKey_eq_ok set
    rfl
  | payeeKey set =>
    obtain ⟨rfl, -⟩ := State.setPayeeKey_eq_ok set
    rfl
  | deposit set =>
    obtain ⟨_, _, _, _, _, _, _, rfl⟩ := State.setDeposit_eq_ok.mp set
    rfl
  | timeoutTransaction | changeTransaction | spendSecret | requested => rfl

/-- What is greatest in a list in any order; zero where there is none. -/
def greatest : List UInt64 → UInt64
  | [] => 0
  | n :: rest => if greatest rest < n then n else greatest rest

theorem le_greatest {quantities : List UInt64} : ∀ n ∈ quantities, n ≤ greatest quantities := by
  induction quantities with
  | nil => simp
  | cons first rest ih =>
    intro n member
    rw [greatest]
    split
    · rename_i above
      rcases List.mem_cons.mp member with rfl | inside
      · exact UInt64.le_refl n
      · exact UInt64.le_trans (ih n inside) (UInt64.le_of_lt above)
    · rename_i below
      rcases List.mem_cons.mp member with rfl | inside
      · exact UInt64.not_lt.mp below
      · exact ih n inside

theorem greatest_mem {quantities : List UInt64} (some : quantities ≠ []) :
    greatest quantities ∈ quantities := by
  induction quantities with
  | nil => exact (some rfl).elim
  | cons first rest ih =>
    rw [greatest]
    split
    · exact List.mem_cons_self
    · rename_i below
      cases rest with
      | nil =>
        -- alone, a quantity that is not above zero is zero
        have zero : first = 0 := UInt64.le_antisymm (UInt64.not_lt.mp below) UInt64.zero_le
        rw [zero]
        exact List.mem_cons_self
      | cons second rest => exact List.mem_cons_of_mem _ (ih (List.cons_ne_nil _ _))

namespace State

variable {state before after : State}

/-- What has moved to the payee: the greatest quantity that an active commit carries. -/
def transferred (quantity : Transaction → UInt64) (state : State) : UInt64 :=
  greatest (state.quantities quantity)

theorem isTransferred_transferred (quantity : Transaction → UInt64) (state : State) :
    state.IsTransferred quantity (state.transferred quantity) := by
  refine ⟨fun commit member => le_greatest _ (List.mem_map.mpr ⟨commit, member, rfl⟩), ?_⟩
  rw [transferred, quantities]
  cases active : state.active with
  | nil => exact .inl ⟨rfl, rfl⟩
  | cons commit rest => exact .inr (List.mem_map.mp (greatest_mem (List.cons_ne_nil _ _)))

theorem IsTransferred.unique {n m : UInt64} (first : state.IsTransferred quantity n)
    (second : state.IsTransferred quantity m) : n = m := by
  obtain ⟨below, ⟨none, rfl⟩ | ⟨commit, member, rfl⟩⟩ := first
  · obtain ⟨-, ⟨-, rfl⟩ | ⟨commit, member, -⟩⟩ := second
    · rfl
    · simp [none] at member
  · obtain ⟨above, ⟨none, -⟩ | ⟨other, inside, rfl⟩⟩ := second
    · simp [none] at member
    · exact UInt64.le_antisymm (above commit member) (below other inside)

theorem IsAscending.transferred_eq (ascending : state.IsAscending quantity) :
    state.transferred quantity = highest (state.quantities quantity) :=
  (isTransferred_transferred quantity state).unique ascending.isTransferred

/-- The last of the active commits carries the amount. -/
theorem IsAscending.transferred_concat (ascending : state.IsAscending quantity)
    {front : List Commit} {last : Commit} (active : state.active = front ++ [last]) :
    state.transferred quantity = quantity last.transaction := by
  rw [ascending.transferred_eq, quantities, active, List.map_append]
  exact highest_concat _ _

theorem transferred_congr (same : after.active = before.active) :
    after.transferred quantity = before.transferred quantity := by
  rw [transferred, transferred, quantities, quantities, same]

end State

theorem Added.transferred_eq {before after : State} {tx : Transaction} {script : Script}
    (added : Added oracle tx script before after) (steady : oracle.IsSteady quantity)
    (ascending : before.IsAscending quantity) :
    after.transferred quantity = quantity tx ∧ before.transferred quantity < quantity tx := by
  have risen := ascending.of_added steady added
  cases added with
  | intro _ _ _ _ _ _ ordered carried above =>
    cases ordered.eq_of_ascending steady ascending
    cases steady tx _ carried
    rw [ordered.answers_eq steady, ← ascending.transferred_eq] at above
    exact ⟨risen.transferred_concat rfl, above⟩

namespace Moved

variable {before after : State} {secret : Secret} {commit : Commit}

/-- Revoking takes one commit out of the active ones; it takes the amount down where this commit
carried it, and nowhere else. -/
theorem transferred_eq (moved : Moved secret before commit after)
    (ascending : before.IsAscending quantity) :
    ∃ left active right, before.active = left ++ active :: right ∧
      commit = active.revokedBy secret ∧ after.active = left ++ right ∧
      if quantity commit.transaction = before.transferred quantity then
        after.transferred quantity < before.transferred quantity
      else after.transferred quantity = before.transferred quantity := by
  have fallen := ascending.of_sublist moved.active_sublist
  have carried := State.isTransferred_transferred quantity after
  cases moved with
  | @intro left right commit split =>
    refine ⟨left, commit, right, split, rfl, rfl, ?_⟩
    change if quantity commit.transaction = _ then _ else _
    have strict := List.pairwise_map.mp ascending.strict
    rw [split, List.pairwise_append, List.pairwise_cons] at strict
    obtain ⟨-, ⟨above, -⟩, below⟩ := strict
    rcases List.eq_nil_or_concat' right with rfl | ⟨front, last, rfl⟩
    · -- the commit was the last one, and each one before it carries less
      rw [ascending.transferred_concat split, if_pos rfl]
      obtain ⟨-, ⟨-, zero⟩ | ⟨other, member, same⟩⟩ := carried
      · rw [zero]
        exact ascending.positive _ (List.mem_map.mpr ⟨commit, split ▸ by simp, rfl⟩)
      · rw [← same]
        exact below other (by simpa using member) commit List.mem_cons_self
    · have top : before.transferred quantity = quantity last.transaction :=
        ascending.transferred_concat (by rw [split, ← List.cons_append, ← List.append_assoc])
      rw [top, if_neg (UInt64.ne_of_lt (above last (by simp)))]
      exact fallen.transferred_concat (List.append_assoc left front [last]).symm

end Moved

/-- Revoking with several secrets goes through the states that revoking with each of them in turn
does. -/
theorem Revocations.foldl_next {before after : State} {secrets : List Secret}
    {found : List (Option Commit)} (revocations : Revocations before secrets found after)
    {singles : List (Event σ)} (each : singles.map (·.request) = secrets.map .revoke) :
    singles.foldl (Event.next oracle config) before = after := by
  induction revocations generalizing singles with
  | none =>
    rw [List.map_eq_nil_iff.mp each]
    rfl
  | next first _ ih =>
    obtain ⟨⟨_, chain⟩, others, rfl, rfl, rest⟩ := List.map_eq_cons_iff.mp each
    have moved : Event.next oracle config _ ⟨.revoke _, chain⟩ = _ :=
      congrArg (·.2.state) (Action.revoke_eq first chain)
    rw [List.foldl_cons, moved]
    exact ih rest

/-- Under an oracle whose quantities do not change, after every run: a commit that is added raises
the transferred amount to its own quantity; revoking the commit that carries the amount lowers it to
the greatest quantity that is left, and revoking another leaves it; so does every other request but
clearing and loading, whether or not it succeeds. Revoking with several secrets leaves the state
that revoking with each in turn does. -/
theorem transferred_falls_only_by_revoking (oracle : Oracle σ) (config : Config)
    (quantity : Transaction → UInt64) (steady : oracle.IsSteady quantity)
    (events : List (Event σ)) :
    let before := run oracle config events
    (∀ (chain : σ) (n : UInt64),
      (serve oracle config .transferredAmount ⟨before, chain⟩).1 = .ok n →
        n = before.transferred quantity) ∧
    (∀ (tx : Transaction) (script : Script) (chain : σ),
      let added := serve oracle config (.addCommit tx script) ⟨before, chain⟩
      added.1 = .ok () → added.2.state.transferred quantity = quantity tx ∧
        before.transferred quantity < added.2.state.transferred quantity) ∧
    (∀ (secret : Secret) (chain : σ),
      let revoked := serve oracle config (.revoke secret) ⟨before, chain⟩
      (∀ commit, revoked.1 = .ok (some commit) →
        ∃ left active right, before.active = left ++ active :: right ∧
          commit = active.revokedBy secret ∧ revoked.2.state.active = left ++ right ∧
          if quantity commit.transaction = before.transferred quantity then
            revoked.2.state.transferred quantity < before.transferred quantity
          else revoked.2.state.transferred quantity = before.transferred quantity) ∧
      (revoked.1 = .ok none →
        revoked.2.state.transferred quantity = before.transferred quantity)) ∧
    (∀ event : Event σ,
      (event.result oracle config before).isOk = false ∨ event.request.changesActive = false →
        (event.next oracle config before).transferred quantity = before.transferred quantity) ∧
    ∀ (secrets : List Secret) (chain : σ) (singles : List (Event σ)),
      singles.map (·.request) = secrets.map .revoke →
        (serve oracle config (.revokeAll secrets) ⟨before, chain⟩).2.state =
          singles.foldl (Event.next oracle config) before := by
  intro before
  have ascending : before.IsAscending quantity := run_isAscending steady config events
  have valid : before.IsValid := run_isValid oracle config events
  refine ⟨fun chain n answer => ?_, fun tx script chain => ?_, fun secret chain => ?_,
    fun event idle => ?_, fun secrets chain singles each => ?_⟩
  · obtain ⟨answers, ordered, rfl⟩ := (Action.transferredAmount_ends _).of_ok answer
    rw [ordered.answers_eq steady, ordered.eq_of_ascending steady ascending,
      ascending.transferred_eq]
  · intro added ok
    have effect := serve_effect oracle config (.addCommit tx script) before chain
    rw [ok] at effect
    obtain ⟨carried, raised⟩ := effect.added_of_addCommit.transferred_eq steady ascending
    exact ⟨carried, carried ▸ raised⟩
  · intro revoked
    refine ⟨fun commit found => ?_, fun found => ?_⟩
    · obtain ⟨impossible, -⟩ | ⟨_, same, moved⟩ :=
        State.revoke_eq_ok ((Action.revoke_ends before secret).of_ok found)
      · cases impossible
      · cases same
        exact moved.transferred_eq ascending
    · obtain ⟨-, same, -⟩ | ⟨_, impossible, -⟩ :=
        State.revoke_eq_ok ((Action.revoke_ends before secret).of_ok found)
      · exact State.transferred_congr (congrArg State.active same)
      · cases impossible
  · rcases idle with failed | kept
    · have order := event.reordered valid (.inl failed)
      rw [order.eq_of_ascending steady ascending]
    · have effect := event.effect oracle config before
      exact State.transferred_congr (effect.active_eq steady ascending kept)
  · obtain ⟨found, after, revocations⟩ := valid.exists_revocations secrets
    rw [revocations.foldl_next each]
    exact congrArg (·.2.state) (Action.revokeAll_eq revocations chain)

theorem transferred_falls_only_by_revoking_sample :
    let before := run Sample.onlineOracle {} Sample.history
    let revoked := serve Sample.onlineOracle {} (.revoke (Sample.revokeSecret 3)) ⟨before, true⟩
    let both := [Sample.revokeSecret 2, Sample.revokeSecret 3]
    before.transferred Sample.carried = 30 ∧
    (∃ commit, revoked.1 = .ok (some commit) ∧ Sample.carried commit.transaction = 30) ∧
    revoked.2.state.transferred Sample.carried < 30 ∧
    (Event.next Sample.onlineOracle {} before ⟨.validateTransfer 25, true⟩).transferred
      Sample.carried = 30 ∧
    (serve Sample.onlineOracle {} (.revokeAll both) ⟨before, true⟩).2.state =
      (both.map fun secret => (⟨.revoke secret, false⟩ : Event Bool)).foldl
        (Event.next Sample.onlineOracle {}) before := by
  intro before revoked both
  obtain ⟨-, -, revokes, keeps, together⟩ := transferred_falls_only_by_revoking
    Sample.onlineOracle {} Sample.carried Sample.onlineOracle_isSteady Sample.history
  obtain ⟨amount, carried⟩ : before.transferred Sample.carried = 30 ∧
      revoked.1.toOption.join.map (fun commit => Sample.carried commit.transaction) = some 30 := by
    decide +kernel
  have kept := keeps ⟨.validateTransfer 25, true⟩ (.inr rfl)
  obtain ⟨commit, joined, same⟩ := Option.map_eq_some_iff.mp carried
  have found := Outcome.toOption_eq_some.mp (Option.join_eq_some_iff.mp joined)
  obtain ⟨_, _, _, -, -, -, falls⟩ := (revokes (Sample.revokeSecret 3) true).1 commit found
  rw [if_pos (same.trans amount.symm)] at falls
  exact ⟨amount, ⟨commit, found, same⟩, amount ▸ falls, kept.trans amount, together both true _ rfl⟩

end PaymentChannel.Channel
