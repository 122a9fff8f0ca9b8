import Mathlib.Data.List.Forall2
import PaymentChannel.Proofs.Channel.Contract

/-! What reading the transferred amount does to a channel. The active commits are put in ascending
order of quantities that the oracle answered for them, and nothing else changes; a failed lookup
changes nothing at all. No operation that only reads does more than that. -/
namespace PaymentChannel

namespace Oracle

variable {σ : Type} (oracle : Oracle σ)

/-- At some moment, the oracle answers `n` for the transaction. -/
def MayAnswer (tx : Transaction) (n : UInt64) : Prop := ∃ chain, (oracle.quantity tx chain).1 = .ok n

/-- The oracle may fail at any lookup, but what it answers for a transaction is always the same. -/
def IsSteady (quantity : Transaction → UInt64) : Prop :=
  ∀ tx n, oracle.MayAnswer tx n → n = quantity tx

end Oracle

namespace Channel

variable {σ : Type} {oracle : Oracle σ}

/-- The active commits of `before`, brought into the ascending order of `quantities`, each of which
the oracle may answer for its commit. -/
structure Ordered (oracle : Oracle σ) (before : State) (quantities : List UInt64) (after : State) :
    Prop where
  frame : after = { before with active := after.active }
  perm : after.active.Perm before.active
  ascending : quantities.Pairwise (· ≤ ·)
  answered : List.Forall₂ (fun commit n => oracle.MayAnswer commit.transaction n) after.active
    quantities

def Reordered (oracle : Oracle σ) (before after : State) : Prop :=
  after = before ∨ ∃ quantities, Ordered oracle before quantities after

/-- What is greatest in a list in ascending order; zero where there is none. -/
def highest (quantities : List UInt64) : UInt64 := quantities.getLast?.getD 0

def IsOracleFault (fault : Fault) : Prop := ∃ error, fault = .oracle error

section Sorting

variable {α : Type} (key : α → UInt64)

private theorem atMost_trans (a b c : α) (first : decide (key a ≤ key b) = true)
    (second : decide (key b ≤ key c) = true) : decide (key a ≤ key c) = true := by
  simp only [decide_eq_true_eq] at first second ⊢
  exact UInt64.le_trans first second

private theorem atMost_total (a b : α) :
    (decide (key a ≤ key b) || decide (key b ≤ key a)) = true := by
  simp only [Bool.or_eq_true, decide_eq_true_eq]
  exact UInt64.le_total (key a) (key b)

theorem pairwise_sort (items : List α) :
    (items.mergeSort fun a b => key a ≤ key b).Pairwise fun a b => key a ≤ key b := by
  have sorted := List.pairwise_mergeSort (atMost_trans key) (atMost_total key) items
  simpa only [decide_eq_true_eq] using sorted

/-- Items of one key are left in their order. -/
theorem filter_sort (items : List α) (n : UInt64) :
    (items.mergeSort fun a b => key a ≤ key b).filter (key · = n) =
      items.filter (key · = n) := by
  have alike : (items.filter (key · = n)).Pairwise fun a b => decide (key a ≤ key b) = true := by
    refine List.pairwise_of_forall_mem_list fun a first b second => ?_
    simp only [List.mem_filter, decide_eq_true_eq] at first second ⊢
    rw [first.2, second.2]
    exact UInt64.le_refl n
  have kept := List.sublist_mergeSort (atMost_trans key) (atMost_total key) alike
    List.filter_sublist
  have inside := kept.filter (key · = n)
  rw [List.filter_filter] at inside
  simp only [Bool.and_self] at inside
  -- as many items have the key before as after, so that nothing comes between these
  refine (inside.eq_of_length ?_).symm
  exact ((List.mergeSort_perm items _).filter _).length_eq.symm

end Sorting

namespace State

theorem quantityOf_gives (tx : Transaction) : (quantityOf oracle tx).Gives fun result =>
    match result with
    | .ok n => oracle.MayAnswer tx n
    | .error fault => IsOracleFault fault :=
  Ask.gives_lookup (fun chain _ found => ⟨chain, found⟩) fun error => ⟨error, rfl⟩

theorem quantityOf_eq_ok {tx : Transaction} {quantity : UInt64} {chain later : σ} :
    quantityOf oracle tx chain = (.ok quantity, later) ↔
      oracle.quantity tx chain = (.ok quantity, later) := by
  rw [quantityOf, Ask.lookup]
  rcases oracle.quantity tx chain with ⟨_ | _, _⟩
  · constructor <;>
    · intro impossible
      cases impossible
  · constructor <;>
    · intro same
      cases same
      rfl

private theorem quantities_give (commits : List Commit) :
    (commits.mapM fun commit => quantityOf oracle commit.transaction).Gives fun result =>
      match result with
      | .ok quantities =>
        List.Forall₂ (fun commit n => oracle.MayAnswer commit.transaction n) commits quantities
      | .error fault => IsOracleFault fault := by
  induction commits with
  | nil => exact Ask.gives_pure .nil
  | cons commit rest ih =>
    rw [List.mapM_cons]
    refine Ask.gives_bind (quantityOf_gives commit.transaction) (fun _ failed => failed) ?_
    intro n answered
    refine Ask.gives_bind ih (fun _ failed => failed) ?_
    intro quantities others
    exact Ask.gives_pure (.cons answered others)

private theorem mem_zip_of_forall₂ {α β : Type} {r : α → β → Prop} {xs : List α} {ys : List β}
    (related : List.Forall₂ r xs ys) {entry : β × α} (member : entry ∈ ys.zip xs) :
    r entry.2 entry.1 := by
  induction related with
  | nil => simp at member
  | cons head _ ih =>
    rcases List.mem_cons.mp member with rfl | inside
    · exact head
    · exact ih inside

private theorem sort_ascending (entries : List (UInt64 × Commit)) :
    ((entries.mergeSort fun a b => a.1 ≤ b.1).map (·.1)).Pairwise (· ≤ ·) :=
  List.pairwise_map.mpr (pairwise_sort (·.1) entries)

private theorem ordered_of_sort {state : State} {quantities : List UInt64}
    (answered : List.Forall₂ (fun commit n => oracle.MayAnswer commit.transaction n) state.active
      quantities) {entries : List (UInt64 × Commit)}
    (sorted : entries = (quantities.zip state.active).mergeSort fun a b => a.1 ≤ b.1) :
    Ordered oracle state (entries.map (·.1)) { state with active := entries.map (·.2) } := by
  have moved : entries.Perm (quantities.zip state.active) := sorted ▸ List.mergeSort_perm _ _
  refine ⟨rfl, ?_, sorted ▸ sort_ascending _, ?_⟩
  · have commits : (quantities.zip state.active).map (·.2) = state.active :=
      List.map_snd_zip (answered.length_eq ▸ Nat.le_refl _)
    exact commits ▸ moved.map (·.2)
  · rw [List.forall₂_map_left_iff, List.forall₂_map_right_iff, List.forall₂_same]
    intro entry member
    exact mem_zip_of_forall₂ answered (moved.mem_iff.mp member)

theorem order_gives (state : State) : (order oracle state).Gives fun result =>
    match result with
    | .ok (quantities, after) => Ordered oracle state quantities after
    | .error fault => IsOracleFault fault := by
  refine Ask.gives_bind (quantities_give state.active) (fun _ failed => failed) ?_
  intro quantities answered
  exact Ask.gives_pure (ordered_of_sort answered rfl)

theorem ordered_of_order {state after : State} {quantities : List UInt64} {chain later : σ}
    (ok : order oracle state chain = (.ok (quantities, after), later)) :
    Ordered oracle state quantities after := by
  have given := @order_gives σ oracle state chain
  rw [ok] at given
  exact given

theorem requireDepositTransaction_eq_ok {state : State} {tx : Transaction} :
    state.requireDepositTransaction = .ok tx ↔ state.depositTransaction = some tx := by
  cases found : state.depositTransaction <;> simp [requireDepositTransaction, found]

theorem requireDepositTransaction_of_none {state : State} (absent : state.depositTransaction = none) :
    state.requireDepositTransaction = .error .noDepositTransaction := by
  rw [requireDepositTransaction, absent]

theorem depositTotal_gives (state : State) : (depositTotal oracle state).Gives fun result =>
    match result with
    | .ok total => ∃ tx, state.depositTransaction = some tx ∧ oracle.MayAnswer tx total
    | .error fault => IsOracleFault fault ∨ fault = .noDepositTransaction := by
  cases there : state.depositTransaction with
  | none =>
    rw [depositTotal, requireDepositTransaction_of_none there]
    exact fun _ => .inr rfl
  | some tx =>
    rw [depositTotal, requireDepositTransaction_eq_ok.mpr there]
    refine (quantityOf_gives tx).mono ?_
    intro result answered
    cases result with
    | error fault => exact .inl answered
    | ok total => exact ⟨tx, rfl, answered⟩

end State

namespace Action

variable (before : State)

theorem orderActive_ends : (orderActive oracle).Ends before fun result after =>
    match result with
    | .ok quantities => Ordered oracle before quantities after
    | .error fault => IsOracleFault fault ∧ after = before := by
  refine ends_bind (ends_ask ((State.order_gives before).mono ?_))
  intro result given
  cases result with
  | error fault => exact ⟨given, rfl⟩
  | ok answer => exact ends_bind (ends_setState (ends_pure given))

theorem transferredAmount_ends : (transferredAmount oracle).Ends before fun result after =>
    match result with
    | .ok n => ∃ quantities, Ordered oracle before quantities after ∧ n = highest quantities
    | .error fault => IsOracleFault fault ∧ after = before := by
  refine ends_bind ((orderActive_ends before).mono ?_)
  intro result after ends
  cases result with
  | error fault => exact ends
  | ok quantities => exact ends_pure ⟨quantities, ends, rfl⟩

theorem validateTransfer_ends (quantity : UInt64) :
    (validateTransfer oracle quantity).Ends before fun result after =>
      match result with
      | .ok _ => ∃ quantities tx total, Ordered oracle before quantities after ∧
        highest quantities < quantity ∧ before.depositTransaction = some tx ∧
        oracle.MayAnswer tx total ∧ quantity ≤ total
      | .error _ => Reordered oracle before after := by
  refine ends_bind ((transferredAmount_ends before).mono ?_)
  intro result middle ends
  cases result with
  | error fault => exact .inl ends.2
  | ok transferred =>
    obtain ⟨quantities, ordered, rfl⟩ := ends
    have reordered : Reordered oracle before middle := .inr ⟨quantities, ordered⟩
    refine ends_ite (fun _ => ends_bind (ends_throw reordered)) fun above => ?_
    refine ends_bind (ends_ask ((State.depositTotal_gives middle).mono ?_))
    intro result given
    cases result with
    | error fault => exact reordered
    | ok total =>
      refine ends_ite (fun _ => ends_throw reordered) fun within => ends_pure ?_
      obtain ⟨tx, there, answered⟩ := given
      rw [ordered.frame] at there
      exact ⟨quantities, tx, total, ordered, UInt64.not_le.mp above, there, answered,
        UInt64.not_lt.mp within⟩

theorem save_ends : (save oracle).Ends before fun result after =>
    Reordered oracle before after ∧ ∀ snapshot, result = .ok snapshot → snapshot = .ofState after := by
  refine ends_bind ((orderActive_ends before).mono ?_)
  intro result after ends
  cases result with
  | error fault => exact ⟨.inl ends.2, fun _ impossible => nomatch impossible⟩
  | ok quantities =>
    refine ends_bind (ends_getState (ends_pure ⟨.inr ⟨quantities, ends⟩, fun snapshot same => ?_⟩))
    exact (Except.ok.inj same).symm

theorem activeCommits_reorders :
    (activeCommits oracle).Ends before fun _ after => Reordered oracle before after := by
  refine ends_bind ((orderActive_ends before).mono ?_)
  intro result after ends
  cases result with
  | error fault => exact .inl ends.2
  | ok quantities => exact ends_bind (ends_getState (ends_pure (.inr ⟨quantities, ends⟩)))

theorem transferredAmount_reorders :
    (transferredAmount oracle).Ends before fun _ after => Reordered oracle before after := by
  refine (transferredAmount_ends before).mono ?_
  intro result after ends
  cases result with
  | error fault => exact .inl ends.2
  | ok n =>
    obtain ⟨quantities, ordered, -⟩ := ends
    exact .inr ⟨quantities, ordered⟩

/-- What remains is asked for after the total, which refuses it only where more is transferred. -/
theorem depositRemaining_ends : (depositRemaining oracle).Ends before fun result after =>
    Reordered oracle before after ∧
    match result with
    | .ok n => ∃ quantities tx total, Ordered oracle before quantities after ∧
      before.depositTransaction = some tx ∧ oracle.MayAnswer tx total ∧
      highest quantities ≤ total ∧ n = total - highest quantities
    | .error fault => IsOracleFault fault ∨ fault = .noDepositTransaction ∨
      ∃ quantities tx total, Ordered oracle before quantities after ∧
        before.depositTransaction = some tx ∧ oracle.MayAnswer tx total ∧
        total < highest quantities := by
  refine ends_bind (ends_ask ((State.depositTotal_gives before).mono ?_))
  intro result given
  cases result with
  | error fault => exact ⟨.inl rfl, given.imp_right .inl⟩
  | ok total =>
    obtain ⟨tx, there, answered⟩ := given
    refine ends_bind ((transferredAmount_ends before).mono ?_)
    intro result after ends
    cases result with
    | error fault => exact ⟨.inl ends.2, .inl ends.1⟩
    | ok transferred =>
      obtain ⟨quantities, ordered, rfl⟩ := ends
      have reordered : Reordered oracle before after := .inr ⟨quantities, ordered⟩
      refine ends_ite (fun above => ends_bind (ends_throw ?_)) fun within => ends_pure ?_
      · exact ⟨reordered, .inr (.inr ⟨quantities, tx, total, ordered, there, answered, above⟩)⟩
      · exact ⟨reordered, quantities, tx, total, ordered, there, answered, UInt64.not_lt.mp within,
          rfl⟩

theorem validateTransfer_reorders (quantity : UInt64) :
    (validateTransfer oracle quantity).Ends before fun _ after =>
      Reordered oracle before after := by
  refine (validateTransfer_ends before quantity).mono ?_
  intro result after ends
  cases result with
  | error fault => exact ends
  | ok _ =>
    obtain ⟨quantities, _, _, ordered, -⟩ := ends
    exact .inr ⟨quantities, ordered⟩

end Action
end Channel
end PaymentChannel
