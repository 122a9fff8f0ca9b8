import Mathlib.Data.List.Sort
import PaymentChannel.Proofs.Channel.Bookkeeping
import PaymentChannel.Proofs.Channel.Ordering

/-! Adding commits and revoking them in turns. Told by membership, a revocation takes away the commit
of one hash and nothing else, and an addition brings one commit of a hash that no secret has revoked,
so that what has become of a channel depends on the commits in their order and on the secrets, but not
on how they were interleaved. -/
namespace PaymentChannel.Channel

variable {σ : Type} {oracle : Oracle σ} {quantity : Transaction → UInt64}

/-- A channel has come from `start` to a state by adding these commits and by revoking with these
secrets, each in their order and both interleaved in some way. Every commit was accepted, and every
secret revoked a commit. -/
inductive Exchange (oracle : Oracle σ) (config : Config) (start : State) :
    List Commit → List Secret → State → Prop
  | start : Exchange oracle config start [] [] start
  | add {commits : List Commit} {secrets : List Secret} {state : State}
      (earlier : Exchange oracle config start commits secrets state) {tx : Transaction}
      {script : Script} {chain : σ}
      (ok : (serve oracle config (.addCommit tx script) ⟨state, chain⟩).1 = .ok ()) :
    Exchange oracle config start (commits ++ [{ transaction := tx, script }]) secrets
      (serve oracle config (.addCommit tx script) ⟨state, chain⟩).2.state
  | revoke {commits : List Commit} {secrets : List Secret} {state : State}
      (earlier : Exchange oracle config start commits secrets state) {secret : Secret}
      {commit : Commit} {chain : σ}
      (ok : (serve oracle config (.revoke secret) ⟨state, chain⟩).1 = .ok (some commit)) :
    Exchange oracle config start commits (secrets ++ [secret])
      (serve oracle config (.revoke secret) ⟨state, chain⟩).2.state

/-- The requests that are left once a commit has come. -/
def meetRequest (requested : List Secret) (commit : Commit) : List Secret :=
  match commit.revokeHash with
  | .ok hash => requested.eraseP (·.hash == hash)
  | .error _ => requested

namespace State.IsBookkept

variable {before after : State}

/-- A commit is known by its revoke hash. -/
theorem eq_of_revokeHash (bookkept : before.IsBookkept) {one other : Commit}
    (first : one ∈ before.active ++ before.revoked) (second : other ∈ before.active ++ before.revoked)
    (same : one.revokeHash = other.revokeHash) : one = other := by
  have distinct := bookkept.distinct
  rw [entries, List.map_map] at distinct
  exact List.inj_on_of_nodup_map distinct first second same

theorem nodup (bookkept : before.IsBookkept) : (before.active ++ before.revoked).Nodup :=
  List.Nodup.of_map _ (List.Nodup.of_map _ bookkept.distinct)

end State.IsBookkept

namespace Moved

variable {before after : State} {secret : Secret} {commit : Commit}

theorem mem_revoked (moved : Moved secret before commit after) (bookkept : before.IsBookkept)
    (other : Commit) : other ∈ after.revoked ↔ other ∈ before.revoked ∨
      ∃ commit ∈ before.active, commit.revokeHash = .ok secret.hash ∧
        other = commit.revokedBy secret := by
  cases moved with
  | @intro left right commit split named =>
    have there : commit ∈ before.active := split ▸ by simp
    rw [List.mem_append, List.mem_singleton]
    refine or_congr_right ⟨?_, ?_⟩
    · rintro rfl
      exact ⟨commit, there, named, rfl⟩
    · rintro ⟨found, member, same, rfl⟩
      rw [bookkept.eq_of_revokeHash (List.mem_append_left _ member) (List.mem_append_left _ there)
        (same.trans named.symm)]

/-- A secret that revokes a commit has not revoked one before. -/
theorem unspent (moved : Moved secret before commit after) (bookkept : before.IsBookkept) :
    ∀ other ∈ before.revoked, other.revokeHash ≠ .ok secret.hash := by
  cases moved with
  | @intro left right commit split named =>
    have there : commit ∈ before.active := split ▸ by simp
    intro other member same
    have known := bookkept.eq_of_revokeHash (List.mem_append_right _ member)
      (List.mem_append_left _ there) (same.trans named.symm)
    exact (List.nodup_append.mp bookkept.nodup).2.2 commit there other member known.symm

end Moved

/-- What has become of `start` with these commits and these secrets, whatever their interleaving. -/
structure Settled (start : State) (commits : List Commit) (secrets : List Secret) (state : State) :
    Prop where
  frame : state = { start with
    requested := state.requested, active := state.active, revoked := state.revoked }
  requested : state.requested = commits.foldl meetRequest start.requested
  active : ∀ commit, commit ∈ state.active ↔ commit ∈ start.active ++ commits ∧
    ∀ secret ∈ secrets, commit.revokeHash ≠ .ok secret.hash
  revoked : ∀ commit, commit ∈ state.revoked ↔ commit ∈ start.revoked ∨
    ∃ secret ∈ secrets, ∃ active ∈ start.active ++ commits,
      active.revokeHash = .ok secret.hash ∧ commit = active.revokedBy secret
  spent : ∀ secret ∈ secrets, ∃ commit ∈ state.revoked, commit.revokeHash = .ok secret.hash

namespace Settled

variable {start before after : State} {commits : List Commit} {secrets : List Secret}

theorem refl (start : State) : Settled start [] [] start := by
  constructor <;> simp

theorem of_added {tx : Transaction} {script : Script} (settled : Settled start commits secrets before)
    (steady : oracle.IsSteady quantity) (ascending : before.IsAscending quantity)
    (added : Added oracle tx script before after) :
    Settled start (commits ++ [{ transaction := tx, script }]) secrets after := by
  cases added with
  | @intro terms _ _ middle _ _ _ read _ _ _ _ unused ordered =>
    cases ordered.eq_of_ascending steady ascending
    have named : Commit.revokeHash { transaction := tx, script } = .ok terms.revokeHash :=
      Commit.revokeHash_of_ofScript read
    -- the hash is new, so it is not that of a secret that has revoked a commit
    have unspent : ∀ secret ∈ secrets,
        Commit.revokeHash { transaction := tx, script } ≠ .ok secret.hash := by
      intro secret member same
      obtain ⟨commit, revoked, hashed⟩ := settled.spent secret member
      have avoids := Commit.anyWithHash_eq_false unused commit (List.mem_append_right _ revoked)
      exact avoids.revokeHash_ne (hashed.trans (same.symm.trans named))
    constructor
    · rw [settled.frame]
    · rw [List.foldl_append, ← settled.requested]
      simp only [List.foldl_cons, List.foldl_nil, meetRequest, named]
    · intro commit
      rw [← List.append_assoc]
      constructor
      · intro member
        rcases List.mem_append.mp member with earlier | last
        · obtain ⟨there, kept⟩ := (settled.active commit).mp earlier
          exact ⟨List.mem_append_left _ there, kept⟩
        · cases List.mem_singleton.mp last
          exact ⟨List.mem_append_right _ last, unspent⟩
      · rintro ⟨member, kept⟩
        rcases List.mem_append.mp member with earlier | last
        · exact List.mem_append_left _ ((settled.active commit).mpr ⟨earlier, kept⟩)
        · exact List.mem_append_right _ last
    · intro commit
      rw [settled.revoked, ← List.append_assoc]
      refine or_congr_right ⟨?_, ?_⟩
      · rintro ⟨secret, member, active, there, hashed⟩
        exact ⟨secret, member, active, List.mem_append_left _ there, hashed⟩
      · rintro ⟨secret, member, active, there, hashed, same⟩
        rcases List.mem_append.mp there with earlier | last
        · exact ⟨secret, member, active, earlier, hashed, same⟩
        · cases List.mem_singleton.mp last
          exact (unspent secret member hashed).elim
    · exact settled.spent

theorem of_moved {secret : Secret} {commit : Commit} (settled : Settled start commits secrets before)
    (bookkept : before.IsBookkept) (moved : Moved secret before commit after) :
    Settled start commits (secrets ++ [secret]) after := by
  have active := moved.mem_active bookkept.hashesDiffer
  have revoked := moved.mem_revoked bookkept
  have fresh := moved.unspent bookkept
  -- what this secret revokes, no secret has revoked before
  have there : ∀ commit ∈ start.active ++ commits, commit.revokeHash = .ok secret.hash →
      commit ∈ before.active := by
    intro commit member named
    refine (settled.active commit).mpr ⟨member, fun other earlier same => ?_⟩
    obtain ⟨found, inside, hashed⟩ := settled.spent other earlier
    exact fresh found inside (hashed.trans (same.symm.trans named))
  constructor
  · cases moved
    rw [settled.frame]
  · cases moved
    exact settled.requested
  · intro other
    rw [active, settled.active, List.forall_mem_append, List.forall_mem_singleton, and_assoc]
  · intro other
    rw [revoked, settled.revoked, or_assoc]
    refine or_congr_right ⟨?_, ?_⟩
    · rintro (⟨earlier, member, found⟩ | ⟨found, member, named, same⟩)
      · exact ⟨earlier, List.mem_append_left _ member, found⟩
      · exact ⟨secret, by simp, found, ((settled.active found).mp member).1, named, same⟩
    · rintro ⟨other, member, found, inside, named, same⟩
      rcases List.mem_append.mp member with earlier | last
      · exact .inl ⟨other, earlier, found, inside, named, same⟩
      · cases List.mem_singleton.mp last
        exact .inr ⟨found, there found inside named, named, same⟩
  · intro other member
    rcases List.mem_append.mp member with earlier | last
    · obtain ⟨found, inside, named⟩ := settled.spent other earlier
      exact ⟨found, (revoked found).mpr (.inl inside), named⟩
    · cases List.mem_singleton.mp last
      cases moved with
      | @intro _ _ commit _ named => exact ⟨commit.revokedBy secret, by simp, named⟩

/-- The secrets count only as members, and commits in order are known by their members. -/
theorem agree {one two : State} {others : List Secret} (first : Settled start commits secrets one)
    (second : Settled start commits others two) (permuted : secrets.Perm others)
    (bookkept : one.IsBookkept ∧ two.IsBookkept)
    (ascending : one.IsAscending quantity ∧ two.IsAscending quantity) :
    one.revoked.Perm two.revoked ∧ two = { one with revoked := two.revoked } := by
  have revoked : one.revoked.Perm two.revoked := by
    have distinct (state : State) (bookkept : state.IsBookkept) : state.revoked.Nodup :=
      (List.nodup_append.mp bookkept.nodup).2.1
    refine (List.perm_ext_iff_of_nodup (distinct one bookkept.1) (distinct two bookkept.2)).mpr ?_
    intro commit
    simp only [first.revoked, second.revoked, permuted.mem_iff]
  have active : one.active = two.active := by
    let below (a b : Commit) : Prop := quantity a.transaction < quantity b.transaction
    have : Std.Irrefl below := ⟨fun a => UInt64.lt_irrefl _⟩
    have : Std.Antisymm below := ⟨fun a b less more => (UInt64.lt_asymm less more).elim⟩
    have strict (state : State) (ascending : state.IsAscending quantity) :
        state.active.Pairwise below := List.pairwise_map.mp ascending.strict
    refine (strict one ascending.1).eq_of_mem_iff (strict two ascending.2) fun commit => ?_
    simp only [first.active, second.active, permuted.mem_iff]
  have requested : one.requested = two.requested := first.requested.trans second.requested.symm
  refine ⟨revoked, second.frame.trans ?_⟩
  rw [first.frame, requested, active]

end Settled

namespace Exchange

variable {config : Config} {start state : State} {commits : List Commit} {secrets : List Secret}

theorem settled (exchange : Exchange oracle config start commits secrets state)
    (steady : oracle.IsSteady quantity) (bookkept : start.IsBookkept)
    (ascending : start.IsAscending quantity) :
    Settled start commits secrets state ∧ state.IsBookkept ∧ state.IsAscending quantity := by
  induction exchange with
  | start => exact ⟨.refl start, bookkept, ascending⟩
  | @add commits secrets state _ tx script chain ok ih =>
    obtain ⟨settled, bookkept, ascending⟩ := ih
    have added := (Action.addCommit_ends state tx script).of_ok ok
    exact ⟨settled.of_added steady ascending added, bookkept.of_added added,
      ascending.of_added steady added⟩
  | @revoke commits secrets state _ secret commit chain ok ih =>
    obtain ⟨settled, bookkept, ascending⟩ := ih
    have revoked := (Action.revoke_ends state secret).of_ok ok
    rcases State.revoke_eq_ok revoked with ⟨impossible, -⟩ | ⟨_, -, moved⟩
    · cases impossible
    · exact ⟨settled.of_moved bookkept moved, bookkept.of_moved moved,
        ascending.of_sublist moved.active_sublist⟩

end Exchange
end PaymentChannel.Channel
