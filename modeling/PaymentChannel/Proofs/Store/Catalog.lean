import Mathlib.Data.List.Perm.Basic
import PaymentChannel.Proofs.Store

/-! A store of texts seen from outside is a finite map from names to snapshots. The simulation relation
says that the entries ascend and that the text under a name is that of the snapshot under it; each
call keeps it and answers from the map. -/
namespace PaymentChannel.Store
open Text (Precedes)

/-- What may be asked of a store. -/
inductive Call
  | put (name : String) (snapshot : Snapshot)
  | get (name : String)
  | list
  | delete (name : String)

inductive Answer
  | done
  | found (snapshot : Snapshot)
  | listed (names : List String)
  | refused (cause : StoreError)

/-- One call, a refused one leaving the store as it is. -/
def serve (store : Store) : Call → Answer × Store
  | .put name snapshot => (.done, store.put name snapshot)
  | .get name =>
    match store.get name with
    | .ok snapshot => (.found snapshot, store)
    | .error cause => (.refused cause, store)
  | .list => (.listed store.names, store)
  | .delete name =>
    match store.delete name with
    | .ok smaller => (.done, smaller)
    | .error cause => (.refused cause, store)

/-- The store after some calls. -/
def run (store : Store) (calls : List Call) : Store :=
  calls.foldl (fun store call => (store.serve call).2) store

/-- Only what is put has to be read again. -/
def Call.IsReadable : Call → Prop
  | .put _ snapshot => snapshot.IsReadable
  | _ => True

/-- The snapshot under each name. -/
def Catalog := String → Option Snapshot

namespace Catalog

variable {catalog : Catalog}

def empty : Catalog := fun _ => none

def set (catalog : Catalog) (name : String) (value : Option Snapshot) : Catalog :=
  fun other => if other = name then value else catalog other

@[simp] theorem set_self (name : String) (value : Option Snapshot) :
    catalog.set name value name = value :=
  if_pos rfl

@[simp] theorem set_ne {name other : String} (different : other ≠ name) (value : Option Snapshot) :
    catalog.set name value other = catalog other :=
  if_neg different

theorem set_eq_self {name : String} {value : Option Snapshot} (already : catalog name = value) :
    catalog.set name value = catalog := by
  funext other
  by_cases same : other = name
  · rw [same, set_self, already]
  · exact set_ne same value

/-- The last put or delete of a name decides what stands under it. -/
def after (catalog : Catalog) : Call → Catalog
  | .put name snapshot => catalog.set name (some snapshot)
  | .delete name => catalog.set name none
  | .get _ | .list => catalog

/-- The answer that a catalog gives to a call. -/
def Gives (catalog : Catalog) : Call → Answer → Prop
  | .put _ _, answer => answer = .done
  | .get name, answer => answer = (catalog name).elim (.refused (.notFound name)) .found
  | .list, answer => ∃ names, answer = .listed names ∧ names.Pairwise Precedes ∧
      ∀ name, name ∈ names ↔ (catalog name).isSome
  | .delete name, answer =>
    answer = if (catalog name).isSome then .done else .refused (.notFound name)

/-- A call has one answer only. -/
theorem Gives.unique {call : Call} {first second : Answer}
    (one : catalog.Gives call first) (other : catalog.Gives call second) : first = second := by
  cases call with
  | put | get | delete => exact one.trans other.symm
  | list =>
    obtain ⟨names, rfl, ascending, members⟩ := one
    obtain ⟨names', rfl, ascending', members'⟩ := other
    have distinct {names : List String} (ascending : names.Pairwise Precedes) : names.Nodup :=
      ascending.imp Precedes.ne
    have same : names.Perm names' :=
      (List.perm_ext_iff_of_nodup (distinct ascending) (distinct ascending')).mpr
        fun name => (members name).trans (members' name).symm
    have equal : names = names' := same.eq_of_pairwise
      (fun _ _ _ _ before after => ((before.trans after).ne rfl).elim) ascending ascending'
    rw [equal]

end Catalog

/-- The store stands for the catalog. -/
structure Represents (store : Store) (catalog : Catalog) : Prop where
  ascending : IsAscending store.entries
  texts : ∀ name, store.entries.lookup name = (catalog name).map (·.toText)
  readable : ∀ name, ∀ snapshot ∈ catalog name, snapshot.IsReadable

namespace Represents

variable {store : Store} {catalog : Catalog}

theorem empty : ({} : Store).Represents .empty where
  ascending := .nil
  texts _ := rfl
  readable _ _ stored := nomatch stored

theorem get_eq (represents : store.Represents catalog) (name : String) :
    store.get name = (catalog name).elim (.error (.notFound name)) .ok := by
  cases stored : catalog name with
  | none => simp [get, represents.texts, stored]
  | some snapshot =>
    have read := Snapshot.ofText_toText (represents.readable name snapshot stored)
    simp [get, represents.texts, stored, read]

theorem mem_names (represents : store.Represents catalog) (name : String) :
    name ∈ store.names ↔ (catalog name).isSome := by
  rw [mem_names_iff, represents.texts, Option.isSome_map]

theorem names_ascend (represents : store.Represents catalog) : store.names.Pairwise Precedes :=
  List.pairwise_map.mpr represents.ascending

/-- A change of the entries under one name only. -/
theorem set (represents : store.Represents catalog) {entries : List (String × String)} {name : String}
    {value : Option Snapshot} (ascending : IsAscending entries)
    (there : entries.lookup name = value.map (·.toText))
    (elsewhere : ∀ other, other ≠ name → entries.lookup other = store.entries.lookup other)
    (readable : ∀ snapshot ∈ value, snapshot.IsReadable) :
    Represents ⟨entries⟩ (catalog.set name value) where
  ascending := ascending
  texts other := by
    by_cases same : other = name
    · rw [same, there, Catalog.set_self]
    · rw [elsewhere other same, represents.texts, Catalog.set_ne same]
  readable other snapshot stored := by
    by_cases same : other = name
    · exact readable snapshot (by simpa [same] using stored)
    · exact represents.readable other snapshot (by simpa [same] using stored)

theorem put (represents : store.Represents catalog) (name : String) {snapshot : Snapshot}
    (readable : snapshot.IsReadable) :
    (store.put name snapshot).Represents (catalog.set name (some snapshot)) :=
  represents.set (represents.ascending.insert name snapshot.toText)
    (lookup_insert_self name snapshot.toText store.entries)
    (fun _ different => lookup_insert_ne different snapshot.toText store.entries)
    (fun _ same => Option.mem_some_iff.mp same ▸ readable)

theorem erase (represents : store.Represents catalog) (name : String) :
    Represents ⟨store.entries.eraseP (·.1 == name)⟩ (catalog.set name none) :=
  represents.set (represents.ascending.eraseP name) (represents.ascending.lookup_eraseP_self name)
    (fun _ different => lookup_eraseP_ne different store.entries) (fun _ absent => nomatch absent)

/-- One call is answered as the catalog answers it. -/
theorem gives (represents : store.Represents catalog) (call : Call) :
    catalog.Gives call (store.serve call).1 := by
  cases call with
  | put name snapshot => rfl
  | get name =>
    rw [Store.serve, represents.get_eq, Catalog.Gives]
    cases catalog name <;> rfl
  | list => exact ⟨_, rfl, represents.names_ascend, represents.mem_names⟩
  | delete name =>
    rw [Store.serve, Store.delete, Catalog.Gives]
    by_cases present : name ∈ store.names
    · rw [if_pos present, if_pos ((represents.mem_names name).mp present)]
    · rw [if_neg present, if_neg (mt (represents.mem_names name).mpr present)]

/-- After one call the store stands for what the catalog becomes. -/
theorem serve (represents : store.Represents catalog) {call : Call} (readable : call.IsReadable) :
    (store.serve call).2.Represents (catalog.after call) := by
  cases call with
  | put name snapshot => exact represents.put name readable
  | get name =>
    rw [Store.serve]
    split <;> exact represents
  | list => exact represents
  | delete name =>
    rw [Store.serve, Store.delete]
    by_cases present : name ∈ store.names
    · rw [if_pos present]
      exact represents.erase name
    · have absent : catalog name = none := by
        simpa using mt (represents.mem_names name).mpr present
      rw [if_neg present, Catalog.after, Catalog.set_eq_self absent]
      exact represents

theorem run (represents : store.Represents catalog) {calls : List Call}
    (readable : ∀ call ∈ calls, call.IsReadable) :
    (store.run calls).Represents (calls.foldl Catalog.after catalog) := by
  induction calls generalizing store catalog with
  | nil => exact represents
  | cons call rest ih =>
    obtain ⟨first, later⟩ := List.forall_mem_cons.mp readable
    exact ih (represents.serve first) later

end Represents

theorem serve_refused (store : Store) {call : Call} {cause : StoreError}
    (refused : (store.serve call).1 = .refused cause) : (store.serve call).2 = store := by
  cases call with
  | put | list => cases refused
  | get name =>
    rw [serve] at refused ⊢
    split <;> rfl
  | delete name =>
    rw [serve] at refused ⊢
    cases deleted : store.delete name with
    | ok _ =>
      rw [deleted] at refused
      cases refused
    | error _ => rfl

/-- A store that starts empty answers as a map from names to snapshots does: after any calls whose
snapshots can be read, the next one has the answer that the map gives, and where that is a refusal the
store stays as it is. -/
theorem answers_are_those_of_a_map (past : List Call) (readable : ∀ call ∈ past, call.IsReadable)
    (next : Call) :
    let store := ({} : Store).run past
    let catalog := past.foldl Catalog.after .empty
    catalog.Gives next (store.serve next).1 ∧
    ∀ cause, (store.serve next).1 = .refused cause → (store.serve next).2 = store :=
  ⟨(Represents.empty.run readable).gives next, fun _ => serve_refused _⟩

/-- One name is put twice, another one deleted. -/
theorem answers_are_those_of_a_map_after_replacing :
    let bare : Snapshot := .ofState {}
    let used : Snapshot := { Snapshot.Sample.kept with requested := [] }
    let past : List Call := [.put "é" bare, .put "b" bare, .put "é" used,
      .put "aa" bare, .delete "b"]
    (∀ call ∈ past, call.IsReadable) ∧
    ((({} : Store).run past).serve (.get "é")).1 = .found used ∧
    ((({} : Store).run past).serve .list).1 = .listed ["aa", "é"] ∧
    ((({} : Store).run past).serve (.delete "b")).1 = .refused (.notFound "b") := by
  intro bare used past
  have readable : ∀ call ∈ past, call.IsReadable := by
    have plain : bare.IsReadable := by decide
    have full : used.IsReadable := by decide +kernel
    simp [past, Call.IsReadable, plain, full]
  have answers := answers_are_those_of_a_map past readable
  have listing : (past.foldl Catalog.after .empty).Gives .list (.listed ["aa", "é"]) := by
    refine ⟨_, rfl, by decide, fun name => ?_⟩
    by_cases first : name = "aa"
    · simp [past, Catalog.after, first]
    · by_cases second : name = "é"
      · simp [past, Catalog.after, second]
      · by_cases third : name = "b"
        · simp [past, Catalog.after, third]
        · simp [past, Catalog.after, Catalog.empty, first, second, third]
  exact ⟨readable, (answers (.get "é")).1, (answers .list).1.unique listing,
    (answers (.delete "b")).1⟩

end PaymentChannel.Store
