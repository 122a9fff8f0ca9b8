import PaymentChannel.Proofs.Channel.Failure
import PaymentChannel.Proofs.Channel.Setup

/-! Reading the scripts that a channel holds. Each of them was read as a whole when it came, so that
what is read from it later is there: revoking always has an answer, and what reads the deposit script
is refused for other reasons only. -/
namespace PaymentChannel.Channel

variable {σ : Type} {oracle : Oracle σ}

/-- Whether the request reads the deposit script that is held, without signing for it. -/
def Request.readsDeposit : Request → Bool
  | .expireTime | .isDepositExpired | .spendHash | .makeCommitScript .. | .setPayerKey _
  | .setPayeeKey _ => true
  | _ => false

/-- Something is not there, a key is another one, or the oracle has no answer. -/
inductive IsRefusal : Fault → Prop
  | noDepositScript : IsRefusal .noDepositScript
  | noDepositTransaction : IsRefusal .noDepositTransaction
  | neitherParty : IsRefusal .neitherParty
  | keyMismatch {key expected : PublicKey} : IsRefusal (.keyMismatch key expected)
  | oracle {error : OracleError} : IsRefusal (.oracle error)

theorem IsRefusal.kind_ne {fault : Fault} (refusal : IsRefusal fault) :
    fault.kind ≠ .scriptFormat ∧ fault.kind ≠ .timelockRange := by
  cases refusal <;> simp [Fault.kind]

/-- No script that was read for the result turned out not to be what it is held for. -/
def HasRead {α : Type} (result : Except Fault α) : Prop :=
  ∀ fault, result = .error fault → IsRefusal fault

namespace HasRead

variable {α β : Type}

theorem of_ok {value : α} : HasRead (.ok value) := fun _ impossible => nomatch impossible

theorem of_refusal {fault : Fault} (refusal : IsRefusal fault) :
    HasRead (.error fault : Except Fault α) :=
  fun _ same => Except.error.inj same ▸ refusal

theorem bind {first : Except Fault α} {next : α → Except Fault β} (start : HasRead first)
    (rest : ∀ value, first = .ok value → HasRead (next value)) : HasRead (first >>= next) := by
  cases first with
  | error fault => exact of_refusal (start fault rfl)
  | ok value => exact rest value rfl

end HasRead

theorem Ask.hasRead_bind {α β : Type} {first : Ask σ α} {next : α → Ask σ β}
    (start : first.Gives HasRead) (rest : ∀ value, (next value).Gives HasRead) :
    (first >>= next).Gives HasRead :=
  gives_bind start (fun fault read => .of_refusal (read fault rfl)) fun value _ => rest value

namespace State

variable {state : State}

theorem requireDepositScript_eq_ok {script : Script} :
    state.requireDepositScript = .ok script ↔ state.depositScript = some script := by
  cases there : state.depositScript <;> simp [requireDepositScript, there]

theorem hasRead_requireDepositScript : HasRead state.requireDepositScript := by
  rw [requireDepositScript]
  split
  · exact .of_ok
  · exact .of_refusal .noDepositScript

theorem hasRead_requireDepositTransaction : HasRead state.requireDepositTransaction := by
  rw [requireDepositTransaction]
  split
  · exact .of_ok
  · exact .of_refusal .noDepositTransaction

variable (valid : state.IsValid)
include valid

theorem hasRead_depositTerms : HasRead state.depositTerms := by
  refine hasRead_requireDepositScript.bind fun script there => ?_
  obtain ⟨terms, read⟩ := valid.deposit script (requireDepositScript_eq_ok.mp there)
  exact read ▸ .of_ok

theorem hasRead_expireTime : HasRead state.expireTime := by
  refine hasRead_requireDepositScript.bind fun script there => ?_
  obtain ⟨terms, read⟩ := valid.deposit script (requireDepositScript_eq_ok.mp there)
  rw [← DepositTerms.toScript_of_ofScript read, terms.expireTimeAt_toScript]
  exact .of_ok

theorem hasRead_spendHash : HasRead state.spendHash := by
  rw [spendHash]
  split
  · exact .of_ok
  · rename_i script _ there
    obtain ⟨terms, read⟩ := valid.deposit script there
    rw [← DepositTerms.toScript_of_ofScript read, terms.spendHashAt_toScript]
    exact .of_ok
  · exact .of_refusal .neitherParty

theorem hasRead_makeCommitScript (config : Config) (revokeHash : Hash160)
    (delayTime : Option UInt16) : HasRead (state.makeCommitScript config revokeHash delayTime) :=
  (hasRead_depositTerms valid).bind fun _ _ => .of_ok

private theorem hasRead_checkedKey (role : DepositTerms → PublicKey) (key : SecretKey)
    (after : State) : HasRead (if state.depositScript.isSome then
      state.depositTerms >>= fun terms => checkKey key (role terms) >>= fun _ => pure after
      else pure after) := by
  split
  · refine (hasRead_depositTerms valid).bind fun terms _ => HasRead.bind ?_ fun _ _ => .of_ok
    rw [checkKey]
    split
    · exact .of_ok
    · exact .of_refusal .keyMismatch
  · exact .of_ok

theorem hasRead_setPayerKey (key : SecretKey) : HasRead (state.setPayerKey key) :=
  hasRead_checkedKey valid DepositTerms.payer key _

theorem hasRead_setPayeeKey (key : SecretKey) : HasRead (state.setPayeeKey key) :=
  hasRead_checkedKey valid DepositTerms.payee key _

theorem hasRead_isDepositExpired : (isDepositExpired oracle state).Gives HasRead := by
  refine Ask.hasRead_bind (Ask.gives_lift (hasRead_expireTime valid)) fun expireTime => ?_
  refine Ask.hasRead_bind ?_ fun _ => Ask.gives_pure .of_ok
  exact Ask.hasRead_bind (Ask.gives_lift hasRead_requireDepositScript) fun _ =>
    Ask.hasRead_bind (Ask.gives_lift hasRead_requireDepositTransaction) fun _ =>
      Ask.gives_lookup (fun _ _ _ => .of_ok) fun _ => .of_refusal .oracle

end State

theorem serve_hasRead {state : State} (valid : state.IsValid) (config : Config) {request : Request}
    (reads : request.readsDeposit = true) :
    (serve oracle config request).Ends state fun result _ => HasRead result := by
  have view {α : Type} {f : State → Except Fault α} (read : HasRead (f state)) :
      (Action.view f : Action σ α).Ends state fun result _ => HasRead result :=
    (Action.view_ends state f).mono fun _ _ ends => ends.1 ▸ read
  have update {f : State → Except Fault State} (read : HasRead (f state)) :
      (Action.update f : Action σ Unit).Ends state fun result _ => HasRead result := by
    refine (Action.update_ends state f).mono fun result after ends => ?_
    cases result with
    | ok _ => exact .of_ok
    | error fault => exact .of_refusal (read fault ends.1)
  cases request
  case expireTime => exact view (State.hasRead_expireTime valid)
  case isDepositExpired =>
    have asks : (State.isDepositExpired oracle state).Gives HasRead :=
      State.hasRead_isDepositExpired valid
    exact fun chain => asks chain
  case spendHash => exact view (State.hasRead_spendHash valid)
  case makeCommitScript revokeHash delayTime =>
    exact view (State.hasRead_makeCommitScript valid config revokeHash delayTime)
  case setPayerKey key => exact update (State.hasRead_setPayerKey valid key)
  case setPayeeKey key => exact update (State.hasRead_setPayeeKey valid key)
  all_goals cases reads

/-- After every run, the deposit script is read as one, the script of every commit as one of a
commit, and a revoke secret that is known as the one that its script names. So revoking, with one
secret or with several, always has an answer, and what reads the deposit script is never refused for
the format of the script or the range of its timelock. -/
theorem held_scripts_are_read (oracle : Oracle σ) (config : Config) (events : List (Event σ)) :
    let state := run oracle config events
    (∀ script, state.depositScript = some script →
      ∃ terms, DepositTerms.ofScript script = .ok terms) ∧
    (∀ commit ∈ state.active ++ state.revoked, ∃ terms,
      CommitTerms.ofScript commit.script = .ok terms ∧
      ∀ secret, commit.revokeSecret = some secret → secret.hash = terms.revokeHash) ∧
    ∀ chain : σ,
      (∀ secret, ∃ found, (serve oracle config (.revoke secret) ⟨state, chain⟩).1 = .ok found) ∧
      (∀ secrets, ∃ found,
        (serve oracle config (.revokeAll secrets) ⟨state, chain⟩).1 = .ok found) ∧
      ∀ (request : Request) (fault : Fault), request.readsDeposit = true →
        (serve oracle config request ⟨state, chain⟩).1 = .error fault →
        fault.kind ≠ .scriptFormat ∧ fault.kind ≠ .timelockRange := by
  intro state
  have valid : state.IsValid := run_isValid oracle config events
  refine ⟨valid.deposit, fun commit member => ?_, fun chain =>
    ⟨fun secret => ?_, fun secrets => ?_, fun request fault reads failed => ?_⟩⟩
  · rcases List.mem_append.mp member with active | revoked
    · exact valid.active commit active
    · exact valid.revoked commit revoked
  · obtain ⟨⟨found, after⟩, ok⟩ := State.revoke_isOk valid secret
    exact ⟨found, congrArg Prod.fst (Action.revoke_eq ok chain)⟩
  · obtain ⟨found, after, revocations⟩ := valid.exists_revocations secrets
    exact ⟨found, congrArg Prod.fst (Action.revokeAll_eq revocations chain)⟩
  · exact (serve_hasRead valid config reads chain fault failed).kind_ne

theorem held_scripts_are_read_sample :
    let state := run Sample.onlineOracle {} Sample.history
    (∃ terms, DepositTerms.ofScript Sample.deposit.toScript = .ok terms) ∧
    (∃ commit ∈ state.revoked, ∃ terms, CommitTerms.ofScript commit.script = .ok terms ∧
      (Sample.revokeSecret 1).hash = terms.revokeHash) ∧
    (∃ found, (serve Sample.onlineOracle {}
      (.revokeAll [Sample.revokeSecret 2, Sample.revokeSecret 2]) ⟨state, true⟩).1 = .ok found) ∧
    ∃ fault, (serve Sample.onlineOracle {} .isDepositExpired ⟨state, true⟩).1 = .error fault ∧
      fault.kind ≠ .scriptFormat ∧ fault.kind ≠ .timelockRange := by
  obtain ⟨deposits, commits, answers⟩ :=
    held_scripts_are_read Sample.onlineOracle {} Sample.history
  obtain ⟨-, revokes, refuses⟩ := answers true
  obtain ⟨there, known, refused⟩ : (run Sample.onlineOracle {} Sample.history).depositScript =
      some Sample.deposit.toScript ∧
      (run Sample.onlineOracle {} Sample.history).revoked.map (·.revokeSecret) =
        [some (Sample.revokeSecret 1)] ∧
      (serve Sample.onlineOracle {} .isDepositExpired
        ⟨run Sample.onlineOracle {} Sample.history, true⟩).1.isOk = false := by
    decide +kernel
  obtain ⟨commit, single, same⟩ := List.map_eq_singleton_iff.mp known
  have member : commit ∈ (run Sample.onlineOracle {} Sample.history).revoked := by simp [single]
  obtain ⟨terms, read, hashed⟩ := commits commit (List.mem_append_right _ member)
  refine ⟨deposits _ there, ⟨commit, member, terms, read, hashed _ same⟩, revokes _, ?_⟩
  cases ended : (serve Sample.onlineOracle {} .isDepositExpired
      ⟨run Sample.onlineOracle {} Sample.history, true⟩).1 with
  | ok _ =>
    rw [ended] at refused
    cases refused
  | error fault => exact ⟨fault, rfl, refuses .isDepositExpired fault rfl ended⟩

end PaymentChannel.Channel
