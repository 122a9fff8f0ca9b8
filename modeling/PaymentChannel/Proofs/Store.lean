import PaymentChannel.Proofs.Snapshot.Text
import PaymentChannel.Store

/-! A store keeps texts, so that what is put into it comes back where its text can be read. Its names
ascend strictly, which is what makes a name stand in it once. -/
namespace PaymentChannel

theorem Text.utf8_inj {a b : String} (same : utf8 a = utf8 b) : a = b := by
  have encoded : a.toList.utf8Encode = b.toList.utf8Encode := congrArg List.toByteArray same
  have decoded := congrArg ByteArray.utf8Decode? encoded
  rw [List.utf8Decode?_utf8Encode, List.utf8Decode?_utf8Encode] at decoded
  have characters := congrArg Array.toList (Option.some.inj decoded)
  exact String.toList_inj.mp (by simpa using characters)

/-- The order of stored names. -/
def Text.Precedes (a b : String) : Prop := utf8 a < utf8 b

namespace Text.Precedes

variable {a b c : String}

instance (a b : String) : Decidable (Precedes a b) := inferInstanceAs (Decidable (utf8 a < utf8 b))

theorem ne (before : Precedes a b) : a ≠ b := by
  rintro rfl
  exact List.lt_irrefl _ before

theorem trans (first : Precedes a b) (second : Precedes b c) : Precedes a c :=
  List.lt_trans first second

theorem of_not (different : a ≠ b) (not : ¬ Precedes b a) : Precedes a b :=
  List.not_le.mp fun le => different (utf8_inj (List.le_antisymm (List.not_lt.mp not) le))

end Text.Precedes

namespace Store
open Text (Precedes)

variable {name : String} {text : String} {entries : List (String × String)}

theorem lookup_insert_self (name text : String) (entries : List (String × String)) :
    (insert name text entries).lookup name = some text := by
  induction entries with
  | nil => simp [insert]
  | cons entry rest ih =>
    rw [insert]
    split
    · simp
    · rename_i different
      split
      · simp
      · rw [List.lookup_cons, beq_eq_false_iff_ne.mpr (Ne.symm different)]
        exact ih

theorem get_put (store : Store) (name : String) {snapshot : Snapshot}
    (readable : snapshot.IsReadable) : (store.put name snapshot).get name = .ok snapshot := by
  simp only [put, get, lookup_insert_self, Snapshot.ofText_toText readable]

theorem lookup_insert_ne {other : String} (different : other ≠ name) (text : String)
    (entries : List (String × String)) :
    (insert name text entries).lookup other = entries.lookup other := by
  have otherwise : (other == name) = false := beq_eq_false_iff_ne.mpr different
  induction entries with
  | nil => simp [insert, List.lookup_cons, otherwise]
  | cons entry rest ih =>
    rw [insert]
    split
    · rename_i same
      rw [List.lookup_cons, List.lookup_cons, same]
      simp only [otherwise]
    · split
      · rw [List.lookup_cons]
        simp only [otherwise]
      · rw [List.lookup_cons, List.lookup_cons, ih]

theorem mem_insert {entry : String × String} (member : entry ∈ insert name text entries) :
    entry = (name, text) ∨ entry ∈ entries := by
  induction entries with
  | nil => exact .inl (by simpa [insert] using member)
  | cons head rest ih =>
    rw [insert] at member
    split at member
    · exact (List.mem_cons.mp member).imp_right (List.mem_cons_of_mem _)
    · split at member
      · exact List.mem_cons.mp member
      · rcases List.mem_cons.mp member with rfl | later
        · exact .inr List.mem_cons_self
        · exact (ih later).imp_right (List.mem_cons_of_mem _)

/-- The names ascend strictly. -/
def IsAscending (entries : List (String × String)) : Prop :=
  entries.Pairwise fun earlier later => Precedes earlier.1 later.1

namespace IsAscending

theorem insert (ascending : IsAscending entries) (name text : String) :
    IsAscending (insert name text entries) := by
  induction entries with
  | nil => exact List.pairwise_singleton _ _
  | cons entry rest ih =>
    obtain ⟨first, later⟩ := List.pairwise_cons.mp ascending
    rw [Store.insert]
    split
    · rename_i same
      exact List.pairwise_cons.mpr ⟨fun other member => same ▸ first other member, later⟩
    · rename_i different
      split
      · rename_i before
        refine List.pairwise_cons.mpr ⟨fun other member => ?_, ascending⟩
        rcases List.mem_cons.mp member with rfl | member
        · exact before
        · exact Precedes.trans before (first other member)
      · rename_i after
        refine List.pairwise_cons.mpr ⟨fun other member => ?_, ih later⟩
        rcases mem_insert member with rfl | member
        · exact Precedes.of_not different after
        · exact first other member

theorem eraseP (ascending : IsAscending entries) (name : String) :
    IsAscending (entries.eraseP (·.1 == name)) :=
  ascending.sublist List.eraseP_sublist

/-- As a name stands once, nothing of it is left. -/
theorem lookup_eraseP_self (ascending : IsAscending entries) (name : String) :
    (entries.eraseP (·.1 == name)).lookup name = none := by
  induction entries with
  | nil => rfl
  | cons entry rest ih =>
    obtain ⟨first, later⟩ := List.pairwise_cons.mp ascending
    by_cases same : entry.1 = name
    · rw [List.eraseP_cons_of_pos (by simpa using same), List.lookup_eq_none_iff]
      exact fun other member => by simpa [same] using (first other member).ne
    · rw [List.eraseP_cons_of_neg (by simpa using same), List.lookup_cons,
        beq_eq_false_iff_ne.mpr (Ne.symm same)]
      exact ih later

end IsAscending

theorem lookup_eraseP_ne {other : String} (different : other ≠ name)
    (entries : List (String × String)) :
    (entries.eraseP (·.1 == name)).lookup other = entries.lookup other := by
  induction entries with
  | nil => rfl
  | cons entry rest ih =>
    by_cases same : entry.1 = name
    · rw [List.eraseP_cons_of_pos (by simpa using same), List.lookup_cons, same,
        beq_eq_false_iff_ne.mpr different]
    · rw [List.eraseP_cons_of_neg (by simpa using same), List.lookup_cons, List.lookup_cons, ih]

theorem mem_names_iff (store : Store) (name : String) :
    name ∈ store.names ↔ (store.entries.lookup name).isSome := by
  rw [names]
  induction store.entries with
  | nil => simp
  | cons entry rest ih =>
    rw [List.map_cons, List.mem_cons, ih, List.lookup_cons]
    by_cases same : name = entry.1
    · simp [same]
    · simp [beq_eq_false_iff_ne.mpr same, same]

end Store
end PaymentChannel
