import PaymentChannel.Proofs.Channel.Effect

/-! Runs of one channel. A run is a list of requests from the empty state on, each with the oracle as
it is when the request comes, so that between two requests anything may happen to the oracle. What
every effect keeps, every run keeps; where only some requests keep it, a rule says which. -/
namespace PaymentChannel.Channel

variable {σ : Type} (oracle : Oracle σ) (config : Config)

structure Event (σ : Type) where
  request : Request
  chain : σ

namespace Event

def result (event : Event σ) (state : State) : Except Fault event.request.Answer :=
  (serve oracle config event.request ⟨state, event.chain⟩).1

def next (state : State) (event : Event σ) : State :=
  (serve oracle config event.request ⟨state, event.chain⟩).2.state

theorem effect (event : Event σ) (state : State) :
    Effect oracle event.request (event.result oracle config state).isOk state
      (event.next oracle config state) :=
  serve_effect oracle config event.request state event.chain

end Event

def run (events : List (Event σ)) : State := events.foldl (Event.next oracle config) {}

/-- Each request, in the state that it comes to, is as the rule wants. -/
def Heeds (rule : State → Request → Prop) : State → List (Event σ) → Prop
  | _, [] => True
  | state, event :: rest => rule state event.request ∧ Heeds rule (event.next oracle config state) rest

theorem heeds_of_forall {rule : State → Request → Prop} (always : ∀ state request, rule state request)
    (state : State) (events : List (Event σ)) : Heeds oracle config rule state events := by
  induction events generalizing state with
  | nil => trivial
  | cons event rest ih => exact ⟨always state event.request, ih _⟩

/-- What every effect keeps of a request that the rule wants, every run of such requests keeps. -/
theorem run_induction_of_heeds (rule : State → Request → Prop) {invariant : State → Prop}
    (empty : invariant {}) (preserved : ∀ request ok before after, rule before request →
      Effect oracle request ok before after → invariant before → invariant after)
    {events : List (Event σ)} (heeds : Heeds oracle config rule {} events) :
    invariant (run oracle config events) := by
  rw [run]
  generalize ({} : State) = state at empty heeds ⊢
  induction events generalizing state with
  | nil => exact empty
  | cons event rest ih =>
    obtain ⟨wanted, heeds⟩ := heeds
    have kept := preserved _ _ _ _ wanted (event.effect oracle config state) empty
    exact ih _ kept heeds

theorem run_induction {invariant : State → Prop} (empty : invariant {})
    (preserved : ∀ request ok before after, Effect oracle request ok before after →
      invariant before → invariant after) (events : List (Event σ)) :
    invariant (run oracle config events) :=
  run_induction_of_heeds oracle config (fun _ _ => True) empty
    (fun request ok before after _ => preserved request ok before after)
    (heeds_of_forall oracle config (fun _ _ => trivial) {} events)

/-! A channel with a small history, at which results about runs are tried. -/

namespace Sample

def generator : Nat := 0x79be667ef9dcbbac55a06295ce870b07029bfcdb2dce28d959f2815b16f81798

def payer : PublicKey := ⟨generator, false, by decide +kernel⟩

def payee : PublicKey := ⟨generator, true, by decide +kernel⟩

def spendSecret : Secret := ⟨[0]⟩

def revokeSecret (n : UInt8) : Secret := ⟨[1, n]⟩

def deposit : DepositTerms := ⟨payer, payee, spendSecret.hash, 5⟩

def commit (n : UInt8) : CommitTerms := ⟨payer, payee, spendSecret.hash, (revokeSecret n).hash, 5⟩

def fund : Request := .setDeposit deposit.toScript (.placeholder 0 100)

/-- Adds the commit that carries ten times its number. -/
def add (n : UInt8) : Request :=
  .addCommit (.placeholder n.toUInt32 (10 * n.toUInt64)) (commit n).toScript

def carried (tx : Transaction) : UInt64 := (tx.outputs.map (·.value)).headD 0

def onlineOracle : Oracle Bool where
  confirmations _ online := (.error (.notFound ""), online)
  quantity tx online := (if online then .ok (carried tx) else .error (.unavailable ""), online)

/-- Three commits are added, one of them after the oracle failed for it, and the first is revoked
before the last is added. -/
def history : List (Event Bool) :=
  [⟨fund, true⟩, ⟨add 1, true⟩, ⟨add 2, false⟩, ⟨add 2, true⟩, ⟨.revoke (revokeSecret 1), false⟩,
    ⟨add 3, true⟩]

theorem onlineOracle_isSteady : onlineOracle.IsSteady carried := by
  intro tx n answered
  obtain ⟨online, answer⟩ := answered
  cases online with
  | false => cases answer
  | true => exact (Except.ok.inj answer).symm

end Sample
end PaymentChannel.Channel
