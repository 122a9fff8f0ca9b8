import Mathlib.Data.List.ReduceOption
import PaymentChannel.Proofs.Channel.Bookkeeping
import PaymentChannel.Proofs.Channel.Validity

/-! Revoking with several secrets. Where the active commits name different hashes, one secret takes
out those that name its own, at most one, and keeps the others in their order. So several take out
the commits that name one of them, each with the first that it names, whatever else is in the list;
and in another order they do the same, where no two different secrets share a hash. -/
namespace PaymentChannel.Channel

namespace Commit

def names (commit : Commit) (secret : Secret) : Bool :=
  commit.revokeHash.toOption == some secret.hash

theorem names_iff {commit : Commit} {secret : Secret} :
    commit.names secret = true ↔ commit.revokeHash = .ok secret.hash := by
  rw [names, beq_iff_eq, Outcome.toOption_eq_some]

theorem names_eq_false {commit : Commit} {secret : Secret}
    (other : commit.revokeHash ≠ .ok secret.hash) : commit.names secret = false :=
  Bool.eq_false_iff.mpr fun named => other (names_iff.mp named)

/-- The commit with the first of the secrets that it names. -/
def revokedByFirst (secrets : List Secret) (commit : Commit) : Option Commit :=
  (secrets.find? commit.names).map commit.revokedBy

theorem revokedByFirst_of_names {commit : Commit} {secret : Secret} (named : commit.names secret = true)
    (secrets : List Secret) :
    commit.revokedByFirst (secret :: secrets) = some (commit.revokedBy secret) := by
  rw [revokedByFirst, List.find?_cons_of_pos named, Option.map_some]

theorem revokedByFirst_of_not_names {commit : Commit} {secret : Secret}
    (other : ¬ commit.names secret = true) (secrets : List Secret) :
    commit.revokedByFirst (secret :: secrets) = commit.revokedByFirst secrets := by
  rw [revokedByFirst, List.find?_cons_of_neg other, revokedByFirst]

/-- In whatever order, the secret that it names is found. -/
theorem revokedByFirst_perm {secrets others : List Secret} (perm : others.Perm secrets)
    (differ : ∀ first ∈ secrets, ∀ second ∈ secrets, first.hash = second.hash → first = second)
    (commit : Commit) : commit.revokedByFirst others = commit.revokedByFirst secrets := by
  have same : others.find? commit.names = secrets.find? commit.names := by
    cases found : secrets.find? commit.names with
    | none =>
      refine List.find?_eq_none.mpr fun secret member => ?_
      exact List.find?_eq_none.mp found secret (perm.subset member)
    | some secret =>
      have named := names_iff.mp (List.find?_some found)
      have listed := List.mem_of_find?_eq_some found
      have there : (others.find? commit.names).isSome :=
        List.find?_isSome.mpr ⟨secret, perm.mem_iff.mpr listed, names_iff.mpr named⟩
      obtain ⟨other, also⟩ := Option.isSome_iff_exists.mp there
      have again := names_iff.mp (List.find?_some also)
      have hashes : other.hash = secret.hash := Except.ok.inj (again.symm.trans named)
      rw [also, differ other (perm.subset (List.mem_of_find?_eq_some also)) secret listed hashes]
  rw [revokedByFirst, revokedByFirst, same]

end Commit

variable {before after : State}

/-- A secret takes out the commits that name it. -/
theorem State.revoke_filters {secret : Secret} {found : Option Commit}
    (distinct : before.HashesDiffer) (ok : before.revoke secret = .ok (found, after)) :
    found.toList = (before.active.filter (·.names secret)).map (·.revokedBy secret) ∧
    after = { before with
      active := before.active.filter (!·.names secret)
      revoked := before.revoked ++ found.toList } := by
  have kept (commits : List Commit) (other : ∀ commit ∈ commits, commit.revokeHash ≠ .ok secret.hash) :
      commits.filter (·.names secret) = [] ∧ commits.filter (!·.names secret) = commits := by
    constructor
    · refine List.filter_eq_nil_iff.mpr fun commit member => ?_
      simp [Commit.names_eq_false (other commit member)]
    · refine List.filter_eq_self.mpr fun commit member => ?_
      simp [Commit.names_eq_false (other commit member)]
  rcases revoke_eq_ok ok with ⟨rfl, rfl, avoided⟩ | ⟨commit, rfl, moved⟩
  · obtain ⟨gone, same⟩ := kept after.active fun commit member => (avoided commit member).revokeHash_ne
    rw [gone, same]
    simp
  · have others := fun other member => ((moved.mem_active distinct other).mp member).2
    cases moved with
    | @intro left right commit split named =>
      obtain ⟨goneLeft, sameLeft⟩ := kept left fun other member =>
        others other (List.mem_append_left right member)
      obtain ⟨goneRight, sameRight⟩ := kept right fun other member =>
        others other (List.mem_append_right left member)
      have there : commit.names secret = true := Commit.names_iff.mpr named
      simp [split, there, goneLeft, goneRight, sameLeft, sameRight]

theorem State.mem_revoked_iff {secret : Secret} {found : Option Commit}
    (distinct : before.HashesDiffer) (ok : before.revoke secret = .ok (found, after))
    (commit : Commit) : found = some commit ↔ ∃ active ∈ before.active,
      active.revokeHash = .ok secret.hash ∧ commit = active.revokedBy secret := by
  rw [← Option.mem_toList, (revoke_filters distinct ok).1, List.mem_map]
  simp only [List.mem_filter, Commit.names_iff, and_assoc, @eq_comm _ commit]

namespace Revocations

variable {secrets : List Secret} {found : List (Option Commit)}

theorem length_eq (revocations : Revocations before secrets found after) :
    found.length = secrets.length := by
  induction revocations with
  | none => rfl
  | next _ _ ih => rw [List.length_cons, List.length_cons, ih]

private theorem reduceOption_cons (first : Option Commit) (others : List (Option Commit)) :
    (first :: others).reduceOption = first.toList ++ others.reduceOption := by
  rw [← List.singleton_append, List.reduceOption_append, List.reduceOption_singleton]

theorem filters (distinct : before.HashesDiffer)
    (revocations : Revocations before secrets found after) :
    after = { before with
      active := before.active.filter fun commit => !secrets.any commit.names
      revoked := before.revoked ++ found.reduceOption } := by
  induction revocations with
  | none => simp
  | next first _ ih =>
    rw [ih (distinct.of_moves (State.moves_of_revoke first)), (State.revoke_filters distinct first).2,
      reduceOption_cons]
    simp only [List.filter_filter, List.any_cons, Bool.not_or, Bool.and_comm, List.append_assoc]

/-- What a secret of the list revokes is the commit that names it, if no secret in front has the same
hash. -/
theorem found_iff (distinct : before.HashesDiffer)
    (revocations : Revocations before secrets found after) {i : Nat} {secret : Secret}
    (there : secrets[i]? = some secret) (commit : Commit) :
    found[i]? = some (some commit) ↔ (∀ earlier ∈ secrets.take i, earlier.hash ≠ secret.hash) ∧
      ∃ active ∈ before.active, active.revokeHash = .ok secret.hash ∧
        commit = active.revokedBy secret := by
  induction revocations generalizing i with
  | none => simp at there
  | @next before middle _ head rest _ _ first _ ih =>
    cases i with
    | zero =>
      cases there
      have one := State.mem_revoked_iff distinct first commit
      simpa using one
    | succ i =>
      have others := ih (distinct.of_moves (State.moves_of_revoke first)) there
      have left (active : Commit) (named : active.revokeHash = .ok secret.hash) :
          active ∈ middle.active ↔ active ∈ before.active ∧ head.hash ≠ secret.hash := by
        rw [(State.revoke_filters distinct first).2, List.mem_filter, Bool.not_eq_true',
          ← Bool.not_eq_true, Commit.names_iff, named, Except.ok.injEq, ne_comm]
      rw [List.getElem?_cons_succ, others, List.take_succ_cons, List.forall_mem_cons]
      constructor
      · rintro ⟨earlier, active, member, named, same⟩
        obtain ⟨inside, different⟩ := (left active named).mp member
        exact ⟨⟨different, earlier⟩, active, inside, named, same⟩
      · rintro ⟨⟨different, earlier⟩, active, inside, named, same⟩
        exact ⟨earlier, active, (left active named).mpr ⟨inside, different⟩, named, same⟩

/-- Every commit that one of the secrets revokes has the first that it names. -/
theorem found_perm (distinct : before.HashesDiffer)
    (revocations : Revocations before secrets found after) :
    found.reduceOption.Perm (before.active.filterMap (Commit.revokedByFirst secrets)) := by
  induction revocations with
  | none => simp [Commit.revokedByFirst]
  | @next before middle _ secret secrets found others first _ ih =>
    obtain ⟨listed, ended⟩ := State.revoke_filters distinct first
    have named : (before.active.filter (·.names secret)).filterMap
        (Commit.revokedByFirst (secret :: secrets)) = found.toList := by
      rw [listed, ← List.filterMap_eq_map]
      refine List.filterMap_congr fun commit member => ?_
      exact Commit.revokedByFirst_of_names (List.mem_filter.mp member).2 secrets
    have unnamed : (before.active.filter (!·.names secret)).filterMap
        (Commit.revokedByFirst (secret :: secrets)) =
        middle.active.filterMap (Commit.revokedByFirst secrets) := by
      rw [ended]
      refine List.filterMap_congr fun commit member => ?_
      exact Commit.revokedByFirst_of_not_names (by simpa using (List.mem_filter.mp member).2) secrets
    have rest := ih (distinct.of_moves (State.moves_of_revoke first))
    rw [reduceOption_cons, ← named]
    refine (rest.append_left _).trans ?_
    rw [← unnamed, ← List.filterMap_append]
    exact (List.filter_append_perm _ _).filterMap _

/-- The same secrets in another order leave the same active commits, and revoke the same ones. -/
theorem of_perm {others : List Secret} {again : List (Option Commit)} {other : State}
    (distinct : before.HashesDiffer) (revocations : Revocations before secrets found after)
    (permuted : Revocations before others again other) (perm : others.Perm secrets)
    (differ : ∀ first ∈ secrets, ∀ second ∈ secrets, first.hash = second.hash → first = second) :
    other.active = after.active ∧ other.revoked.Perm after.revoked := by
  have same : Commit.revokedByFirst others = Commit.revokedByFirst secrets :=
    funext (Commit.revokedByFirst_perm perm differ)
  have moved : again.reduceOption.Perm found.reduceOption := by
    refine (permuted.found_perm distinct).trans ?_
    rw [same]
    exact (revocations.found_perm distinct).symm
  rw [permuted.filters distinct, revocations.filters distinct]
  refine ⟨List.filter_congr fun commit _ => ?_, moved.append_left _⟩
  rw [perm.any_eq]

end Revocations

/-- Revoking with one secret after another, each by a request of its own. -/
inductive RevokedInTurn {σ : Type} (oracle : Oracle σ) (config : Config) :
    State → List Secret → List (Option Commit) → State → Prop
  | none {state : State} : RevokedInTurn oracle config state [] [] state
  | next {before middle after : State} {secret : Secret} {secrets : List Secret}
      {found : Option Commit} {others : List (Option Commit)}
      (first : ∀ chain, serve oracle config (.revoke secret) ⟨before, chain⟩ =
        (.ok found, ⟨middle, chain⟩))
      (rest : RevokedInTurn oracle config middle secrets others after) :
    RevokedInTurn oracle config before (secret :: secrets) (found :: others) after

theorem Revocations.inTurn {σ : Type} {oracle : Oracle σ} {config : Config} {secrets : List Secret}
    {found : List (Option Commit)} (revocations : Revocations before secrets found after) :
    RevokedInTurn oracle config before secrets found after := by
  induction revocations with
  | none => exact .none
  | next first _ ih => exact .next (Action.revoke_eq first) ih

end PaymentChannel.Channel
