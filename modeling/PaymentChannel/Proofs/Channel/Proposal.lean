import PaymentChannel.Proofs.Channel.Failure
import PaymentChannel.Proofs.Channel.Setup
import PaymentChannel.Proofs.Channel.Success

/-! What one party makes, the other accepts. A commit script that is made for a deposit is added by
every channel with this deposit whose commits name other revoke hashes, where the quantity can be
transferred; a deposit script that the payer makes for the key and the hash of the payee is set by
both. No other check stands in the way. -/
namespace PaymentChannel.Channel

variable {σ : Type} {oracle : Oracle σ} {config : Config} {state : State}

theorem Commit.anyWithHash_eq_false_iff {hash : Hash160} {commits : List Commit}
    (valid : ∀ commit ∈ commits, commit.IsValid) :
    anyWithHash hash commits = .ok false ↔
      ∀ commit ∈ commits, commit.revokeHash ≠ .ok hash := by
  constructor
  · intro ok commit member
    exact (anyWithHash_eq_false ok commit member).revokeHash_ne
  · intro others
    induction commits with
    | nil => rfl
    | cons commit rest ih =>
      obtain ⟨validFirst, validRest⟩ := List.forall_mem_cons.mp valid
      obtain ⟨first, others⟩ := List.forall_mem_cons.mp others
      obtain ⟨found, named⟩ := validFirst.revokeHash_eq_ok
      have different : found ≠ hash := fun same => first (same ▸ named)
      rw [anyWithHash, Outcome.bind_eq_ok]
      refine ⟨found, named, ?_⟩
      rw [if_neg different]
      exact ih validRest others

namespace State

/-- No commit, active or revoked, is one of this revoke hash. -/
theorem usesRevokeHash_eq_false_iff {hash : Hash160} (valid : state.IsValid) :
    state.usesRevokeHash hash = .ok false ↔
      ∀ commit ∈ state.active ++ state.revoked, ∀ terms,
        CommitTerms.ofScript commit.script = .ok terms → terms.revokeHash ≠ hash := by
  have all : ∀ commit ∈ state.active ++ state.revoked, commit.IsValid := fun commit member =>
    (List.mem_append.mp member).elim (valid.active commit) (valid.revoked commit)
  rw [usesRevokeHash, Commit.anyWithHash_eq_false_iff all]
  refine forall₂_congr fun commit member => ?_
  obtain ⟨terms, read, -⟩ := all commit member
  rw [Commit.revokeHash_of_ofScript read, read]
  simp

theorem makeCommitScript_eq_ok {hash : Hash160} {delayTime : Option UInt16} {script : Script} :
    state.makeCommitScript config hash delayTime = .ok script ↔
      ∃ deposit, state.depositTerms = .ok deposit ∧ script = CommitTerms.toScript ⟨deposit.payer,
        deposit.payee, deposit.spendHash, hash, delayTime.getD config.delayTime⟩ := by
  rw [makeCommitScript, Outcome.bind_eq_ok]
  refine exists_congr fun deposit => and_congr_right fun _ => ?_
  exact ⟨fun ok => (Except.ok.inj ok).symm, fun same => congrArg Except.ok same.symm⟩

end State

namespace Action

theorem update_eq {update : State → Except Fault State} {before after : State}
    (ok : update before = .ok after) (chain : σ) :
    Action.update update ⟨before, chain⟩ = (.ok (), ⟨after, chain⟩) := by
  change ((liftM (update before) >>= setState : Action σ Unit)) ⟨before, chain⟩ = _
  rw [bind_eq (lift_eq ok _)]
  rfl

/-- Of the checks of a commit script that was made for the same deposit, that of the revoke hash and
that of the quantity are left. -/
theorem addCommit_made_eq_ok {maker taker : State} (valid : taker.IsValid)
    (same : maker.depositScript = taker.depositScript) {hash : Hash160}
    {delayTime : Option UInt16} {script : Script}
    (made : maker.makeCommitScript config hash delayTime = .ok script) {tx : Transaction}
    {chain : σ} :
    (addCommit oracle tx script ⟨taker, chain⟩).1 = .ok () ↔
      (∀ commit ∈ taker.active ++ taker.revoked, ∀ terms,
        CommitTerms.ofScript commit.script = .ok terms → terms.revokeHash ≠ hash) ∧
      ∃ quantity later, oracle.quantity tx chain = (.ok quantity, later) ∧
        (validateTransfer oracle quantity ⟨taker, later⟩).1 = .ok () := by
  obtain ⟨deposit, funded, rfl⟩ := State.makeCommitScript_eq_ok.mp made
  have there : taker.depositTerms = .ok deposit := by
    rw [State.depositTerms_eq_ok, ← same]
    exact State.depositTerms_eq_ok.mp funded
  rw [result_eq_ok, ← State.usesRevokeHash_eq_false_iff valid]
  simp only [addCommit_eq_ok, result_eq_ok, CommitTerms.ofScript_toScript, there, Except.ok.injEq,
    exists_eq_left', and_self, true_and, existsAndEq, and_true, exists_and_left]

end Action

namespace State

/-- There is no deposit yet, and of the keys and the spend secret there is what is said. -/
structure AwaitsDeposit (payerKey payeeKey : Option SecretKey) (spendSecret : Option Secret)
    (state : State) : Prop where
  payerKey : state.payerKey = payerKey
  payeeKey : state.payeeKey = payeeKey
  spendSecret : state.spendSecret = spendSecret
  depositScript : state.depositScript = none
  depositTransaction : state.depositTransaction = none

namespace AwaitsDeposit

variable {payer payee : State} {payerKey payeeKey : SecretKey} {secret : Secret}

theorem setDeposit_eq {payerKey payeeKey : Option SecretKey} {spendSecret : Option Secret}
    (awaits : state.AwaitsDeposit payerKey payeeKey spendSecret) {terms : DepositTerms}
    (payer : ∀ key, payerKey = some key → key.publicKey = terms.payer)
    (payee : ∀ key, payeeKey = some key → key.publicKey = terms.payee)
    (secret : ∀ secret, spendSecret = some secret → secret.hash = terms.spendHash)
    (tx : Transaction) :
    state.setDeposit terms.toScript tx = .ok
      { state with depositScript := some terms.toScript, depositTransaction := some tx } := by
  obtain ⟨rfl, rfl, rfl, noScript, noTransaction⟩ := awaits
  refine setDeposit_eq_ok.mpr ⟨terms, terms.ofScript_toScript, ?_, ?_, payer, payee, secret, rfl⟩
  · simp [noScript]
  · simp [noTransaction]

theorem spendHash_eq (awaits : payee.AwaitsDeposit none (some payeeKey) (some secret)) :
    payee.spendHash = .ok secret.hash := by
  rw [spendHash, awaits.spendSecret]

theorem accept_made (payerAwaits : payer.AwaitsDeposit (some payerKey) none none)
    (payeeAwaits : payee.AwaitsDeposit none (some payeeKey) (some secret)) (config : Config)
    (expireTime : Option UInt16) :
    ∃ script, payer.makeDepositScript config payeeKey.publicKey secret.hash expireTime =
      .ok script ∧ ∀ tx,
        payer.setDeposit script tx =
          .ok { payer with depositScript := some script, depositTransaction := some tx } ∧
        payee.setDeposit script tx =
          .ok { payee with depositScript := some script, depositTransaction := some tx } := by
  let terms : DepositTerms :=
    ⟨payerKey.publicKey, payeeKey.publicKey, secret.hash, expireTime.getD config.expireTime⟩
  refine ⟨terms.toScript, ?_, fun tx => ⟨?_, ?_⟩⟩
  · rw [makeDepositScript, payerAwaits.payerKey]
  · -- only the payer's key can be compared, and it is the one in the terms
    refine payerAwaits.setDeposit_eq ?_ ?_ ?_ tx
    · rintro _ ⟨⟩
      rfl
    · rintro _ ⟨⟩
    · rintro _ ⟨⟩
  · refine payeeAwaits.setDeposit_eq ?_ ?_ ?_ tx
    · rintro _ ⟨⟩
    · rintro _ ⟨⟩
      rfl
    · rintro _ ⟨⟩
      rfl

end AwaitsDeposit
end State

/-- A commit script that one side makes is added by the other, after every run of both that leaves
them the same deposit script and whatever oracle is asked, exactly where no commit of the other has
its revoke hash, the oracle answers for the transaction, and the quantity that it answers can then
be transferred. A deposit script that a payer makes for the key and the hash of a payee is set by
both with any transaction. -/
theorem proposals_are_accepted {ρ σ τ : Type} (oracle : Oracle ρ) (makerOracle : Oracle σ)
    (takerOracle : Oracle τ) (makerConfig takerConfig : Config) (makerEvents : List (Event σ))
    (takerEvents : List (Event τ)) :
    let maker := run makerOracle makerConfig makerEvents
    let taker := run takerOracle takerConfig takerEvents
    (maker.depositScript = taker.depositScript → ∀ (revokeHash : Hash160)
      (delayTime : Option UInt16) (script : Script) (makerChain chain : ρ),
      (serve oracle makerConfig (.makeCommitScript revokeHash delayTime)
        ⟨maker, makerChain⟩).1 = .ok script → ∀ tx : Transaction,
      (serve oracle takerConfig (.addCommit tx script) ⟨taker, chain⟩).1 = .ok () ↔
        (∀ commit ∈ taker.active ++ taker.revoked, ∀ terms,
          CommitTerms.ofScript commit.script = .ok terms → terms.revokeHash ≠ revokeHash) ∧
        ∃ quantity later, oracle.quantity tx chain = (.ok quantity, later) ∧
          (serve oracle takerConfig (.validateTransfer quantity) ⟨taker, later⟩).1 = .ok ()) ∧
    ∀ (payer payee : State) (payerKey payeeKey : SecretKey) (secret : Secret),
      payer.AwaitsDeposit (some payerKey) none none →
      payee.AwaitsDeposit none (some payeeKey) (some secret) →
      ∀ (payerChain payeeChain : ρ) (expireTime : Option UInt16), ∃ spendHash script,
        (serve oracle takerConfig .spendHash ⟨payee, payeeChain⟩).1 = .ok spendHash ∧
        (serve oracle makerConfig (.makeDepositScript payeeKey.publicKey spendHash expireTime)
          ⟨payer, payerChain⟩).1 = .ok script ∧
        ∀ tx : Transaction,
          serve oracle makerConfig (.setDeposit script tx) ⟨payer, payerChain⟩ =
            (.ok (), ⟨{ payer with depositScript := some script, depositTransaction := some tx },
              payerChain⟩) ∧
          serve oracle takerConfig (.setDeposit script tx) ⟨payee, payeeChain⟩ =
            (.ok (), ⟨{ payee with depositScript := some script, depositTransaction := some tx },
              payeeChain⟩) := by
  intro maker taker
  constructor
  · intro same revokeHash delayTime script makerChain chain made tx
    exact Action.addCommit_made_eq_ok (run_isValid takerOracle takerConfig takerEvents) same made
  · intro payer payee payerKey payeeKey secret payerAwaits payeeAwaits payerChain payeeChain
      expireTime
    obtain ⟨script, made, set⟩ :=
      payerAwaits.accept_made payeeAwaits makerConfig expireTime
    exact ⟨secret.hash, script, payeeAwaits.spendHash_eq, made, fun tx =>
      ⟨Action.update_eq (set tx).1 payerChain, Action.update_eq (set tx).2 payeeChain⟩⟩

namespace Sample

def payerHolding : State := { payerKey := some ((SecretKey.ofScalar? 2).get (by decide +kernel)) }

def payeeHolding : State where
  payeeKey := some ((SecretKey.ofScalar? 3).get (by decide +kernel))
  spendSecret := some spendSecret

end Sample

theorem proposals_are_accepted_second :
    let maker := run Sample.onlineOracle {} [⟨Sample.fund, true⟩]
    let taker := run Sample.onlineOracle {} Sample.firstCommit
    let script := (Sample.commit 2).toScript
    (serve Sample.onlineOracle {} (.makeCommitScript (Sample.revokeSecret 2).hash none)
      ⟨maker, true⟩).1 = .ok script ∧
    (serve Sample.onlineOracle {} (.addCommit (.placeholder 2 20) script) ⟨taker, true⟩).1 =
      .ok () ∧
    ∃ deposit, ∀ tx,
      (serve Sample.onlineOracle {} (.setDeposit deposit tx) ⟨Sample.payerHolding, true⟩).1 =
        .ok () ∧
      (serve Sample.onlineOracle {} (.setDeposit deposit tx) ⟨Sample.payeeHolding, true⟩).1 =
        .ok () := by
  intro maker taker script
  obtain ⟨commits, deposits⟩ := proposals_are_accepted Sample.onlineOracle Sample.onlineOracle
    Sample.onlineOracle {} {} [⟨Sample.fund, true⟩] Sample.firstCommit
  obtain ⟨funded, same, first, transferable⟩ :
      maker.depositScript = some Sample.deposit.toScript ∧
      maker.depositScript = taker.depositScript ∧
      taker.active ++ taker.revoked =
        [{ transaction := .placeholder 1 10, script := (Sample.commit 1).toScript }] ∧
      (serve Sample.onlineOracle {} (.validateTransfer 20) ⟨taker, true⟩).1.toOption = some () := by
    decide +kernel
  have made : maker.makeCommitScript {} (Sample.revokeSecret 2).hash none = .ok script :=
    State.makeCommitScript_eq_ok.mpr ⟨Sample.deposit, State.depositTerms_eq_ok.mpr funded, rfl⟩
  have added := commits same _ none script true true made (.placeholder 2 20)
  refine ⟨made, added.mpr ⟨?_, 20, true, rfl, ?_⟩, ?_⟩
  · intro commit member terms read
    rw [first, List.mem_singleton] at member
    rw [member, CommitTerms.ofScript_toScript] at read
    cases read
    decide +kernel
  · exact Outcome.toOption_eq_some.mp transferable
  · obtain ⟨_, deposit, _, _, set⟩ := deposits Sample.payerHolding Sample.payeeHolding _ _ _
      ⟨rfl, rfl, rfl, rfl, rfl⟩ ⟨rfl, rfl, rfl, rfl, rfl⟩ true true none
    exact ⟨deposit, fun tx => ⟨congrArg Prod.fst (set tx).1, congrArg Prod.fst (set tx).2⟩⟩

end PaymentChannel.Channel
