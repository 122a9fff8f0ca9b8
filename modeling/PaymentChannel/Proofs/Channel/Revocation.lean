import Mathlib.Logic.Relation
import PaymentChannel.Proofs.Channel.Contract
import PaymentChannel.Proofs.Template.Recognition

/-! What revoking does to a channel: at most one active commit, the first whose script names the
hash of the secret, moves to the end of the revoked ones and takes the secret along. -/
namespace PaymentChannel.Channel

namespace Commit

/-- The script of the commit names a revoke hash, and not this one. -/
def Avoids (hash : Hash160) (commit : Commit) : Prop :=
  ∃ other, commit.revokeHash = .ok other ∧ other ≠ hash

theorem Avoids.revokeHash_ne {hash : Hash160} {commit : Commit} (avoids : commit.Avoids hash) :
    commit.revokeHash ≠ .ok hash := by
  obtain ⟨other, named, different⟩ := avoids
  intro same
  exact different (Except.ok.inj (named.symm.trans same))

theorem revokeHash_of_ofScript {commit : Commit} {terms : CommitTerms}
    (read : CommitTerms.ofScript commit.script = .ok terms) :
    commit.revokeHash = .ok terms.revokeHash := by
  rw [revokeHash, ← CommitTerms.toScript_of_ofScript read]
  exact terms.revokeHashAt_toScript

theorem takeOut_cons (hash : Hash160) (commit : Commit) (rest : List Commit) :
    takeOut hash (commit :: rest) = commit.revokeHash >>= fun found =>
      if found = hash then pure (some (commit, rest))
      else takeOut hash rest >>= fun result => pure (result.map fun p => (p.1, commit :: p.2)) := by
  rw [takeOut]
  congr 1
  funext found
  split
  · rfl
  · congr 1
    funext result
    cases result <;> rfl

theorem takeOut_eq_none {hash : Hash160} {commits : List Commit}
    (ok : takeOut hash commits = .ok none) : ∀ commit ∈ commits, commit.Avoids hash := by
  induction commits with
  | nil => simp
  | cons commit rest ih =>
    rw [takeOut_cons, Outcome.bind_eq_ok] at ok
    obtain ⟨found, named, ok⟩ := ok
    split at ok
    · cases ok
    · rename_i other
      obtain ⟨result, taken, ok⟩ := Outcome.bind_eq_ok.mp ok
      cases result with
      | some pair => cases ok
      | none =>
        intro member inside
        rcases List.mem_cons.mp inside with rfl | inside
        · exact ⟨found, named, other⟩
        · exact ih taken member inside

theorem takeOut_eq_some {hash : Hash160} {commits others : List Commit} {commit : Commit}
    (ok : takeOut hash commits = .ok (some (commit, others))) :
    ∃ left right, commits = left ++ commit :: right ∧ others = left ++ right ∧
      commit.revokeHash = .ok hash ∧ ∀ earlier ∈ left, earlier.Avoids hash := by
  induction commits generalizing others with
  | nil => cases ok
  | cons first rest ih =>
    rw [takeOut_cons, Outcome.bind_eq_ok] at ok
    obtain ⟨found, named, ok⟩ := ok
    split at ok
    · rename_i same
      cases ok
      exact ⟨[], rest, rfl, rfl, same ▸ named, by simp⟩
    · rename_i other
      obtain ⟨result, taken, ok⟩ := Outcome.bind_eq_ok.mp ok
      cases result with
      | none => cases ok
      | some pair =>
        cases ok
        obtain ⟨left, right, split, joined, hashed, avoided⟩ := ih taken
        refine ⟨first :: left, right, by rw [split, List.cons_append], by rw [joined, List.cons_append],
          hashed, ?_⟩
        intro earlier member
        rcases List.mem_cons.mp member with rfl | inside
        · exact ⟨found, named, other⟩
        · exact avoided earlier inside

theorem anyWithHash_eq_false {hash : Hash160} {commits : List Commit}
    (ok : anyWithHash hash commits = .ok false) : ∀ commit ∈ commits, commit.Avoids hash := by
  induction commits with
  | nil => simp
  | cons commit rest ih =>
    rw [anyWithHash, Outcome.bind_eq_ok] at ok
    obtain ⟨found, named, ok⟩ := ok
    split at ok
    · cases ok
    · rename_i other
      intro member inside
      rcases List.mem_cons.mp inside with rfl | inside
      · exact ⟨found, named, other⟩
      · exact ih ok member inside

def revokedBy (commit : Commit) (secret : Secret) : Commit :=
  { commit with revokeSecret := some secret }

end Commit

/-- One active commit has moved to the revoked ones, with a secret that its script names the hash
of. -/
inductive Moved (secret : Secret) (before : State) : Commit → State → Prop
  | intro {left right : List Commit} {commit : Commit}
      (split : before.active = left ++ commit :: right)
      (named : commit.revokeHash = .ok secret.hash)
      (first : ∀ earlier ∈ left, earlier.Avoids secret.hash) :
    Moved secret before (commit.revokedBy secret)
      { before with
        active := left ++ right
        revoked := before.revoked ++ [commit.revokedBy secret] }

def Moves : State → State → Prop :=
  Relation.ReflTransGen fun before after => ∃ secret commit, Moved secret before commit after

theorem Moved.active_sublist {before after : State} {secret : Secret} {commit : Commit}
    (moved : Moved secret before commit after) : after.active.Sublist before.active := by
  cases moved with
  | intro split =>
    rw [split]
    exact List.Sublist.append_left (List.sublist_cons_self _ _) _

theorem Moves.active_sublist {before after : State} (moves : Moves before after) :
    after.active.Sublist before.active := by
  induction moves with
  | refl => exact .refl _
  | tail _ moved ih =>
    obtain ⟨_, _, moved⟩ := moved
    exact moved.active_sublist.trans ih

theorem Moves.frame {before after : State} (moves : Moves before after) :
    after = { before with active := after.active, revoked := after.revoked } := by
  induction moves with
  | refl => rfl
  | tail _ moved ih =>
    obtain ⟨_, _, moved⟩ := moved
    cases moved with
    | intro => rw [ih]

/-- Revoking with several secrets, one after another: what each of them revoked, and the state that
is left. -/
inductive Revocations : State → List Secret → List (Option Commit) → State → Prop
  | none {state : State} : Revocations state [] [] state
  | next {before middle after : State} {secret : Secret} {secrets : List Secret}
      {found : Option Commit} {others : List (Option Commit)}
      (first : before.revoke secret = .ok (found, middle))
      (rest : Revocations middle secrets others after) :
    Revocations before (secret :: secrets) (found :: others) after

namespace State

theorem revoke_eq_ok {before after : State} {secret : Secret} {found : Option Commit}
    (ok : before.revoke secret = .ok (found, after)) :
    (found = none ∧ after = before ∧ ∀ commit ∈ before.active, commit.Avoids secret.hash) ∨
      ∃ commit, found = some commit ∧ Moved secret before commit after := by
  rw [revoke, Outcome.bind_eq_ok] at ok
  obtain ⟨result, taken, ok⟩ := ok
  cases result with
  | none =>
    cases ok
    exact .inl ⟨rfl, rfl, Commit.takeOut_eq_none taken⟩
  | some pair =>
    obtain ⟨commit, others⟩ := pair
    cases ok
    obtain ⟨left, right, split, joined, named, first⟩ := Commit.takeOut_eq_some taken
    subst joined
    exact .inr ⟨_, rfl, .intro split named first⟩

theorem moves_of_revoke {before after : State} {secret : Secret} {found : Option Commit}
    (ok : before.revoke secret = .ok (found, after)) : Moves before after := by
  rcases revoke_eq_ok ok with ⟨-, rfl, -⟩ | ⟨commit, -, moved⟩
  · exact .refl
  · exact .single ⟨secret, commit, moved⟩

end State

namespace Action

variable {σ : Type}

theorem revoke_eq {before after : State} {secret : Secret} {found : Option Commit}
    (ok : before.revoke secret = .ok (found, after)) (chain : σ) :
    revoke secret ⟨before, chain⟩ = (.ok found, ⟨after, chain⟩) := by
  change ((liftM (before.revoke secret) >>= fun answer => do
    setState answer.2
    return answer.1 : Action σ (Option Commit))) ⟨before, chain⟩ = _
  rw [bind_eq (lift_eq ok _)]
  rfl

theorem revokeAll_eq {before after : State} {secrets : List Secret} {found : List (Option Commit)}
    (revocations : Revocations before secrets found after) (chain : σ) :
    revokeAll secrets ⟨before, chain⟩ = (.ok found, ⟨after, chain⟩) := by
  induction revocations with
  | none => rfl
  | next first _ ih =>
    rw [revokeAll] at ih ⊢
    rw [List.mapM_cons, bind_eq (revoke_eq first chain), bind_eq ih]
    rfl

theorem revoke_ends (before : State) (secret : Secret) :
    (revoke secret : Action σ (Option Commit)).Ends before fun result after =>
      match result with
      | .ok found => before.revoke secret = .ok (found, after)
      | .error _ => after = before := by
  refine ends_bind (ends_getState (ends_bind (ends_lift ?_)))
  split
  · rename_i answer ok
    exact ends_bind (ends_setState (ends_pure ok))
  · rfl

theorem revokeAll_ends (before : State) (secrets : List Secret) :
    (revokeAll secrets : Action σ (List (Option Commit))).Ends before fun _ after =>
      Moves before after := by
  induction secrets generalizing before with
  | nil => exact ends_pure .refl
  | cons secret rest ih =>
    rw [revokeAll, List.mapM_cons]
    refine ends_bind ((revoke_ends before secret).mono ?_)
    intro result middle ok
    cases result with
    | error fault => exact ok ▸ .refl
    | ok found =>
      refine ends_bind ((ih middle).mono ?_)
      intro result after moves
      have all := (State.moves_of_revoke ok).trans moves
      cases result with
      | error fault => exact all
      | ok others => exact ends_pure all

end Action
end PaymentChannel.Channel
