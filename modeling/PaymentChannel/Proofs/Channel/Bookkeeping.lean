import Mathlib.Data.List.Nodup
import Mathlib.Data.Set.List
import PaymentChannel.Proofs.Channel.Effect
import PaymentChannel.Proofs.Template.Recognition

/-! What a channel keeps of its commits. Apart from adding, clearing and loading, no request changes
which transactions and scripts are among the commits, active and revoked together; a revoked commit
differs from the active one that it was in nothing but its secret. So a hash that was new when its
commit was added stays the hash of that commit alone, whether or not it is revoked. -/
namespace PaymentChannel.Channel

variable {σ : Type} {oracle : Oracle σ}

/-- What stays of a commit when it is revoked. -/
def Commit.entry (commit : Commit) : Transaction × Script := (commit.transaction, commit.script)

/-- Whether a success of the request may change which commits there are. -/
def Request.changesEntries : Request → Bool
  | .addCommit .. | .clear | .load _ => true
  | _ => false

namespace State

def entries (state : State) : List (Transaction × Script) :=
  (state.active ++ state.revoked).map Commit.entry

end State

variable {before after : State}

theorem Ordered.revoked_eq {quantities : List UInt64}
    (ordered : Ordered oracle before quantities after) : after.revoked = before.revoked := by
  rw [ordered.frame]

theorem Ordered.entries_perm {quantities : List UInt64}
    (ordered : Ordered oracle before quantities after) : after.entries.Perm before.entries := by
  rw [State.entries, State.entries, ordered.revoked_eq]
  exact (ordered.perm.append_right before.revoked).map Commit.entry

theorem Moved.entries_perm {secret : Secret} {commit : Commit}
    (moved : Moved secret before commit after) : after.entries.Perm before.entries := by
  cases moved with
  | @intro left right commit split =>
    have same : (commit.revokedBy secret).entry = commit.entry := rfl
    have front : (left ++ right ++ before.revoked ++ [commit]).Perm
        (left ++ commit :: right ++ before.revoked) := by
      rw [List.append_assoc left (commit :: right), List.cons_append, List.append_assoc left right]
      exact (List.perm_append_singleton commit _).trans List.perm_middle.symm
    simpa only [State.entries, split, List.map_append, List.map_cons, List.map_nil, same,
      List.append_assoc] using front.map Commit.entry

theorem Moves.entries_perm (moves : Moves before after) : after.entries.Perm before.entries := by
  induction moves with
  | refl => exact .refl _
  | tail _ moved ih =>
    obtain ⟨secret, commit, moved⟩ := moved
    exact moved.entries_perm.trans ih

theorem Added.entries_perm {tx : Transaction} {script : Script}
    (added : Added oracle tx script before after) :
    after.entries.Perm ((tx, script) :: before.entries) := by
  cases added with
  | @intro _ _ _ middle _ _ _ _ _ _ _ _ _ ordered =>
    refine List.Perm.trans ?_ (ordered.entries_perm.cons (tx, script))
    simp only [State.entries, List.append_assoc, List.map_append, List.map_cons, List.singleton_append]
    exact List.perm_middle

namespace Effect

variable {request : Request} {ok : Bool}

theorem entries_perm (effect : Effect oracle request ok before after)
    (kept : ok = true → request.changesEntries = false) : after.entries.Perm before.entries := by
  cases effect.on_commits with
  | kept active revoked => rw [State.entries, State.entries, active, revoked]
  | ordered order => exact order.entries_perm
  | loaded | cleared | added => cases kept rfl
  | moved moves => exact moves.entries_perm

theorem added_of_addCommit {tx : Transaction} {script : Script}
    (effect : Effect oracle (.addCommit tx script) true before after) :
    Added oracle tx script before after := by
  cases effect with
  | reordered idle => cases idle rfl
  | added add => exact add

end Effect

namespace State

/-- No two active commits name the same revoke hash. -/
def HashesDiffer (state : State) : Prop := (state.active.map Commit.revokeHash).Nodup

namespace HashesDiffer

theorem empty : HashesDiffer {} := List.nodup_nil

theorem of_perm (distinct : before.HashesDiffer) (perm : after.active.Perm before.active) :
    after.HashesDiffer :=
  (perm.map Commit.revokeHash).nodup_iff.mpr distinct

theorem of_moves (distinct : before.HashesDiffer) (moves : Moves before after) :
    after.HashesDiffer :=
  distinct.sublist (moves.active_sublist.map Commit.revokeHash)

end HashesDiffer

/-- Every commit has a revoke hash of its own; the secret of a commit is there once it is revoked,
and not before. -/
structure IsBookkept (state : State) : Prop where
  written : ∀ entry ∈ state.entries, ∃ terms : CommitTerms, terms.toScript = entry.2
  distinct : (state.entries.map fun entry => CommitTerms.revokeHashAt entry.2).Nodup
  unrevoked : ∀ commit ∈ state.active, commit.revokeSecret = none
  punishable : ∀ commit ∈ state.revoked, ∃ secret, commit.revokeSecret = some secret ∧
    commit.revokeHash = .ok secret.hash

namespace IsBookkept

theorem empty : IsBookkept {} := by
  constructor <;> simp [entries]

theorem of_entries (bookkept : before.IsBookkept) (kept : after.entries.Perm before.entries)
    (unrevoked : ∀ commit ∈ after.active, commit.revokeSecret = none)
    (punishable : ∀ commit ∈ after.revoked, ∃ secret, commit.revokeSecret = some secret ∧
      commit.revokeHash = .ok secret.hash) : after.IsBookkept where
  written entry member := bookkept.written entry (kept.subset member)
  distinct := ((kept.map _).nodup_iff).mpr bookkept.distinct
  unrevoked := unrevoked
  punishable := punishable

theorem of_ordered {quantities : List UInt64} (bookkept : before.IsBookkept)
    (ordered : Ordered oracle before quantities after) : after.IsBookkept := by
  refine bookkept.of_entries ordered.entries_perm ?_ (ordered.revoked_eq ▸ bookkept.punishable)
  intro commit member
  exact bookkept.unrevoked commit (ordered.perm.subset member)

theorem of_moved {secret : Secret} {commit : Commit} (bookkept : before.IsBookkept)
    (moved : Moved secret before commit after) : after.IsBookkept := by
  refine bookkept.of_entries moved.entries_perm ?_ ?_
  · intro other member
    exact bookkept.unrevoked other (moved.active_sublist.subset member)
  · cases moved with
    | @intro left right commit _ named =>
      intro other member
      rcases List.mem_append.mp member with earlier | last
      · exact bookkept.punishable other earlier
      · cases List.mem_singleton.mp last
        exact ⟨secret, rfl, named⟩

theorem of_moves (bookkept : before.IsBookkept) (moves : Moves before after) :
    after.IsBookkept := by
  induction moves with
  | refl => exact bookkept
  | tail _ moved ih =>
    obtain ⟨secret, commit, moved⟩ := moved
    exact ih.of_moved moved

private theorem fresh_of_unused {hash : Hash160} (unused : before.usesRevokeHash hash = .ok false) :
    .ok hash ∉ before.entries.map fun entry => CommitTerms.revokeHashAt entry.2 := by
  intro member
  rw [entries, List.map_map] at member
  obtain ⟨commit, inside, same⟩ := List.mem_map.mp member
  exact (Commit.anyWithHash_eq_false unused commit inside).revokeHash_ne same

theorem of_added {tx : Transaction} {script : Script} (bookkept : before.IsBookkept)
    (added : Added oracle tx script before after) : after.IsBookkept := by
  have perm := added.entries_perm
  cases added with
  | @intro terms _ _ middle _ _ _ read _ _ _ _ unused ordered =>
    have sorted := bookkept.of_ordered ordered
    have hashed : CommitTerms.revokeHashAt script = .ok terms.revokeHash :=
      @Commit.revokeHash_of_ofScript { transaction := tx, script } terms read
    constructor
    · intro entry member
      rcases List.mem_cons.mp (perm.subset member) with rfl | earlier
      · exact ⟨terms, CommitTerms.toScript_of_ofScript read⟩
      · exact bookkept.written entry earlier
    · rw [(perm.map _).nodup_iff, List.map_cons, List.nodup_cons, hashed]
      exact ⟨fresh_of_unused unused, bookkept.distinct⟩
    · intro commit member
      rcases List.mem_append.mp member with earlier | last
      · exact sorted.unrevoked commit earlier
      · cases List.mem_singleton.mp last
        rfl
    · exact sorted.punishable

theorem of_commits (bookkept : before.IsBookkept) (active : after.active = before.active)
    (revoked : after.revoked = before.revoked) : after.IsBookkept :=
  bookkept.of_entries (by rw [entries, entries, active, revoked]) (active ▸ bookkept.unrevoked)
    (revoked ▸ bookkept.punishable)

theorem of_effect {request : Request} {ok : Bool} (effect : Effect oracle request ok before after)
    (stored : ∀ snapshot, request = .load snapshot → snapshot.toState.IsBookkept)
    (bookkept : before.IsBookkept) : after.IsBookkept := by
  cases effect.on_commits with
  | kept active revoked => exact bookkept.of_commits active revoked
  | ordered order => exact bookkept.of_ordered order
  | loaded load => exact (stored _ rfl).of_ordered load.ordered
  | cleared => exact empty
  | added add => exact bookkept.of_added add
  | moved moves => exact bookkept.of_moves moves

theorem hashesDiffer (bookkept : before.IsBookkept) : before.HashesDiffer := by
  have distinct := bookkept.distinct
  rw [entries, List.map_map, List.map_append, List.nodup_append] at distinct
  exact distinct.1

theorem exists_terms {state : State} (bookkept : state.IsBookkept) :
    ∃ terms : List CommitTerms,
      (state.active ++ state.revoked).map (·.script) = terms.map CommitTerms.toScript ∧
      (terms.map (·.revokeHash)).Nodup := by
  have scripts : (state.active ++ state.revoked).map (·.script) ∈
      Set.range (List.map CommitTerms.toScript) := by
    rw [Set.range_list_map]
    intro script member
    obtain ⟨commit, inside, rfl⟩ := List.mem_map.mp member
    exact bookkept.written commit.entry (List.mem_map_of_mem inside)
  obtain ⟨terms, written⟩ := scripts
  refine ⟨terms, written.symm, ?_⟩
  have hashes : state.entries.map (fun entry => CommitTerms.revokeHashAt entry.2) =
      (terms.map (·.revokeHash)).map .ok := by
    have read := congrArg (List.map CommitTerms.revokeHashAt) written
    simp only [List.map_map, Function.comp_def, CommitTerms.revokeHashAt_toScript] at read
    simp only [entries, List.map_map, Function.comp_def]
    exact read.symm
  exact List.Nodup.of_map _ (hashes ▸ bookkept.distinct)

theorem exists_secret {state : State} (bookkept : state.IsBookkept) {commit : Commit}
    (member : commit ∈ state.revoked) : ∃ (terms : CommitTerms) (secret : Secret),
      commit.script = terms.toScript ∧ commit.revokeSecret = some secret ∧
      secret.hash = terms.revokeHash := by
  have listed : commit.entry ∈ state.entries :=
    List.mem_map_of_mem (List.mem_append_right state.active member)
  obtain ⟨terms, written⟩ := bookkept.written commit.entry listed
  obtain ⟨secret, known, named⟩ := bookkept.punishable commit member
  have read : commit.revokeHash = .ok terms.revokeHash :=
    Commit.revokeHash_of_ofScript (CommitTerms.ofScript_eq_ok_iff.mpr written.symm)
  exact ⟨terms, secret, written.symm, known, Except.ok.inj (named.symm.trans read)⟩

end IsBookkept
end State

/-- Where the hashes differ, a revocation takes away the commit of one hash and nothing else. -/
theorem Moved.mem_active {secret : Secret} {commit : Commit} (moved : Moved secret before commit after)
    (distinct : before.HashesDiffer) (other : Commit) :
    other ∈ after.active ↔ other ∈ before.active ∧ other.revokeHash ≠ .ok secret.hash := by
  cases moved with
  | @intro left right commit split named =>
    rw [State.HashesDiffer, split, List.map_append, List.map_cons, List.nodup_middle, List.nodup_cons,
      ← List.map_append, named] at distinct
    rw [split, List.mem_append, List.mem_append, List.mem_cons]
    constructor
    · intro member
      refine ⟨member.imp_right .inr, fun same => distinct.1 ?_⟩
      exact same ▸ List.mem_map_of_mem (List.mem_append.mpr member)
    · rintro ⟨earlier | rfl | later, different⟩
      · exact .inl earlier
      · exact (different named).elim
      · exact .inr later

end PaymentChannel.Channel
