import Mathlib.Data.List.Duplicate
import PaymentChannel.Outcome
import PaymentChannel.Proofs.Json.Record

/-! What the order of the members of an object, members of other names, missing and repeated ones do
to reading a record. Members are read one after the other, so that the draft is always that of the
fields met so far; members of other names leave it alone. -/
namespace PaymentChannel.Json

variable {ε α : Type}

namespace Reader

theorem exists_of_map_eq_ok {β : Type} {make : α → β} {outcome : Except (ReadError ε) α} {result : β}
    (ok : make <$> outcome = .ok result) : ∃ value, outcome = .ok value := by
  cases outcome with
  | error cause => cases ok
  | ok value => exact ⟨value, rfl⟩

theorem mapM_eq_ok_iff {read : Reader ε α} {items : List Json} {values : List α} :
    items.mapM read = .ok values ↔
      List.Forall₂ (fun item value => read item = .ok value) items values := by
  induction items generalizing values with
  | nil =>
    rw [List.forall₂_nil_left_iff]
    exact ⟨fun same => (Except.ok.inj same).symm, fun same => same ▸ rfl⟩
  | cons item rest ih =>
    rw [List.mapM_cons, List.forall₂_cons_left_iff]
    constructor
    · intro ok
      obtain ⟨value, head, ok⟩ := Outcome.bind_eq_ok.mp ok
      obtain ⟨others, tail, same⟩ := Outcome.bind_eq_ok.mp ok
      exact ⟨value, others, head, ih.mp tail, (Except.ok.inj same).symm⟩
    · rintro ⟨value, others, head, tail, rfl⟩
      rw [head, ih.mpr tail]
      rfl

/-- A list that is read has no item that cannot be. -/
theorem read_of_mem {read : Reader ε α} {items : List Json} {closed : Bool} {values : List α}
    (ok : list read (.array items closed) = .ok values) {item : Json} (member : item ∈ items) :
    ∃ value, read item = .ok value := by
  obtain ⟨all, reads, -⟩ := Outcome.bind_eq_ok.mp ok
  have each := mapM_eq_ok_iff.mp reads
  clear ok reads
  induction each with
  | nil => cases member
  | cons head _ ih =>
    rcases List.mem_cons.mp member with rfl | later
    · exact ⟨_, head⟩
    · exact ih later

end Reader

namespace Schema

variable {schema : Schema ε} {document : schema.Field → Json} {values : schema.Values}
  {fields : List schema.Field} {members : List (Option String × Json)}

theorem field?_eq_none {key : String} (unknown : ∀ field, schema.name field ≠ key) :
    schema.field? key = none :=
  List.find?_eq_none.mpr fun field _ => by simpa using unknown field

/-- The members of an object: those of some fields, in this order, and between them any whole values
under other names. -/
inductive Interleaves (document : schema.Field → Json) :
    List schema.Field → List (Option String × Json) → Prop
  | nil : Interleaves document [] []
  | field (field : schema.Field) {fields : List schema.Field}
      {members : List (Option String × Json)} (rest : Interleaves document fields members) :
    Interleaves document (field :: fields) ((some (schema.name field), document field) :: members)
  | other {key : String} (unknown : ∀ field, schema.name field ≠ key) {value : Json}
      (whole : isWhole value) {fields : List schema.Field} {members : List (Option String × Json)}
      (rest : Interleaves document fields members) :
    Interleaves document fields ((some key, value) :: members)

/-- An object that has every field but the omitted ones once, in any order and among others. -/
inductive IsLayout (document : schema.Field → Json) (omitted : List schema.Field) : Json → Prop
  | mk {fields : List schema.Field} {members : List (Option String × Json)}
      (all : (omitted ++ fields).Perm schema.fields)
      (interleaves : Interleaves document fields members) :
    IsLayout document omitted (.object members true)

theorem Draft.of_nil (values : schema.Values) : Draft.of values [] = fun _ => none := by
  funext field
  simp [Draft.of]

theorem Draft.readMember_other {key : String} (unknown : ∀ field, schema.name field ≠ key)
    {value : Json} (whole : isWhole value) (draft : schema.Draft) :
    draft.readMember (some key, value) = .ok draft := by
  simp only [readMember, field?_eq_none unknown, whole, if_true]

/-- The only field without a value is the one reported. -/
theorem Draft.finish_of_missing {field : schema.Field} {given : List schema.Field}
    (all : ∀ other, other ∈ given ↔ other ≠ field) :
    (Draft.of values given).finish = .error (.missingField (schema.name field)) := by
  have absent (other : schema.Field) : (Draft.of values given other).isNone ↔ other = field := by
    by_cases same : other = field <;> simp [Draft.of, all, same]
  rw [finish]
  split
  · rename_i found missing
    have first : (Draft.of values given found).isNone := by simpa using List.find?_some missing
    rw [(absent found).mp first]
  · rename_i none
    have present := List.find?_eq_none.mp none field (schema.complete field)
    exact absurd ((absent field).mpr rfl) present

/-- Once a field is given, it is not among those that come later. -/
theorem not_mem_cons_of_nodup {field : schema.Field} {given : List schema.Field}
    (distinct : (field :: fields).Nodup) (missing : ∀ other ∈ fields, other ∉ given) :
    ∀ other ∈ fields, other ∉ field :: given := by
  intro other member
  rw [List.mem_cons, not_or]
  exact ⟨fun same => (List.nodup_cons.mp distinct).1 (same ▸ member), missing other member⟩

namespace Interleaves

/-- Nothing has to stand between the fields. -/
theorem of_fields (document : schema.Field → Json) (fields : List schema.Field) :
    Interleaves document fields
      (fields.map fun field => (some (schema.name field), document field)) := by
  induction fields with
  | nil => exact .nil
  | cons field rest ih => exact .field field ih

theorem foldlM_readMember (interleaves : Interleaves document fields members)
    (named : ∀ field, schema.field? (schema.name field) = some field)
    (written : ∀ field ∈ fields, schema.read field (document field) = .ok (values field))
    (distinct : fields.Nodup) (given : List schema.Field)
    (missing : ∀ field ∈ fields, field ∉ given) :
    members.foldlM Draft.readMember (Draft.of values given) =
      .ok (Draft.of values (fields.reverse ++ given)) := by
  induction interleaves generalizing given with
  | nil => rfl
  | field field rest ih =>
    rw [List.forall_mem_cons] at written missing
    rw [List.foldlM_cons, Draft.readMember_of (named field) written.1 missing.1]
    change List.foldlM Draft.readMember (Draft.of values (field :: given)) _ = _
    rw [ih written.2 distinct.of_cons (field :: given) (not_mem_cons_of_nodup distinct missing.2),
      List.reverse_cons, List.append_assoc, List.singleton_append]
  | other unknown whole rest ih =>
    rw [List.foldlM_cons, Draft.readMember_other unknown whole]
    exact ih written distinct given missing

/-- A field whose document cannot be read decides where the others can. -/
theorem foldlM_readMember_error (interleaves : Interleaves document fields members)
    (named : ∀ field, schema.field? (schema.name field) = some field) {bad : schema.Field}
    {cause : ReadError ε} (fails : schema.read bad (document bad) = .error cause)
    (written : ∀ field ≠ bad, schema.read field (document field) = .ok (values field))
    (distinct : fields.Nodup) (given : List schema.Field)
    (missing : ∀ field ∈ fields, field ∉ given) (member : bad ∈ fields) :
    members.foldlM Draft.readMember (Draft.of values given) = .error cause := by
  induction interleaves generalizing given with
  | nil => cases member
  | field field rest ih =>
    rw [List.forall_mem_cons] at missing
    rw [List.foldlM_cons]
    by_cases same : field = bad
    · subst same
      have absent : ((Draft.of values given) field).isSome = false := by simp [Draft.of, missing.1]
      simp only [Draft.readMember, named, absent, fails, bind, Except.bind]
      rfl
    · rw [Draft.readMember_of (named field) (written field same) missing.1]
      have later := (List.mem_cons.mp member).resolve_left (Ne.symm same)
      exact ih distinct.of_cons (field :: given) (not_mem_cons_of_nodup distinct missing.2) later
  | other unknown whole rest ih =>
    rw [List.foldlM_cons, Draft.readMember_other unknown whole]
    exact ih distinct given missing member

end Interleaves

namespace IsLayout

variable {omitted : List schema.Field} {json : Json}

theorem record (all : (omitted ++ fields).Perm schema.fields) :
    IsLayout document omitted
      (.record (fields.map fun field => (schema.name field, document field))) := by
  have members : (fields.map fun field => (schema.name field, document field)).map
      (fun member => (some member.1, member.2)) =
      fields.map fun field => (some (schema.name field), document field) := by
    rw [List.map_map]
    rfl
  have layout := IsLayout.mk all (Interleaves.of_fields document fields)
  rwa [← members] at layout

section

variable (named : ∀ field, schema.field? (schema.name field) = some field)
  (distinct : schema.fields.Nodup)

include named distinct

/-- Whatever its layout, an object gives a value to every field that is not omitted. -/
theorem readValues_eq (layout : IsLayout document omitted json)
    (written : ∀ field ∉ omitted, schema.read field (document field) = .ok (values field)) :
    ∃ given : List schema.Field, (omitted ++ given).Perm schema.fields ∧
      schema.readValues json = (Draft.of values given).finish := by
  obtain ⟨all, interleaves⟩ := layout
  rename_i fields members
  obtain ⟨-, once, apart⟩ := List.nodup_append.mp (all.nodup_iff.mpr distinct)
  have drafted := interleaves.foldlM_readMember named
    (fun field member => written field fun omitted => apart field omitted field member rfl) once []
    fun _ _ => List.not_mem_nil
  refine ⟨fields.reverse ++ [], ?_, ?_⟩
  · rw [List.append_nil]
    exact (fields.reverse_perm.append_left omitted).trans all
  · simp only [readValues, ← Draft.of_nil values, drafted, bind, Except.bind, if_true]

/-- A record is read from its fields in any order and among any others. -/
theorem readValues_ok (layout : IsLayout document [] json)
    (written : ∀ field, schema.read field (document field) = .ok (values field)) :
    schema.readValues json = .ok values := by
  obtain ⟨given, all, same⟩ := layout.readValues_eq named distinct fun field _ => written field
  have complete (field : schema.Field) : field ∈ given := all.mem_iff.mpr (schema.complete field)
  rw [same, Draft.finish_of complete]

/-- The record that is written is one of them. -/
theorem readValues_record
    (written : ∀ field, schema.read field (document field) = .ok (values field)) :
    schema.readValues
      (.record (schema.fields.map fun field => (schema.name field, document field))) = .ok values :=
  readValues_ok named distinct (record (List.Perm.refl ([] ++ schema.fields))) written

/-- A field that is left out is reported, also one that may be null. -/
theorem readValues_missing {missing : schema.Field} (layout : IsLayout document [missing] json)
    (written : ∀ field ≠ missing, schema.read field (document field) = .ok (values field)) :
    schema.readValues json = .error (.missingField (schema.name missing)) := by
  obtain ⟨given, all, same⟩ := layout.readValues_eq named distinct
    fun field given => written field (List.ne_of_not_mem_cons given)
  have once := List.nodup_cons.mp (all.nodup_iff.mpr distinct)
  rw [same, Draft.finish_of_missing]
  intro other
  constructor
  · rintro member rfl
    exact once.1 member
  · intro different
    exact (List.mem_cons.mp (all.mem_iff.mpr (schema.complete other))).resolve_left different

/-- The fault of the one field that cannot be read is that of the record. -/
theorem readValues_error (layout : IsLayout document [] json) {bad : schema.Field}
    {cause : ReadError ε} (fails : schema.read bad (document bad) = .error cause)
    (written : ∀ field ≠ bad, schema.read field (document field) = .ok (values field)) :
    schema.readValues json = .error cause := by
  obtain ⟨all, interleaves⟩ := layout
  have failed := interleaves.foldlM_readMember_error named fails written
    (all.nodup_iff.mpr distinct) [] (fun _ _ => List.not_mem_nil)
    (all.mem_iff.mpr (schema.complete bad))
  simp only [readValues, ← Draft.of_nil values, failed, bind, Except.bind]

end

end IsLayout

/-! ### Repeated members -/

/-- A member that is read keeps what was given before. One of a field has not been given before, and
its document can be read. -/
theorem Draft.readMember_eq_ok {draft after : schema.Draft} {member : Option String × Json}
    (ok : draft.readMember member = .ok after) {field : schema.Field}
    (named : schema.field? (schema.name field) = some field) :
    ((draft field).isSome → (after field).isSome) ∧
    (member.1 = some (schema.name field) → (draft field).isSome = false ∧ (after field).isSome ∧
      ∃ value, schema.read field member.2 = .ok value) := by
  obtain ⟨key, json⟩ := member
  cases key with
  | none => cases ok
  | some key =>
    rw [readMember] at ok
    cases known : schema.field? key with
    | none =>
      simp only [known] at ok
      have same : draft = after := by
        split at ok
        · exact Except.ok.inj ok
        · cases ok
      refine ⟨fun given => same ▸ given, fun isName => ?_⟩
      rw [Option.some.inj isName, named] at known
      cases known
    | some other =>
      simp only [known] at ok
      split at ok
      · cases ok
      · rename_i fresh
        obtain ⟨value, reads, same⟩ := Outcome.bind_eq_ok.mp ok
        obtain rfl : draft.set other value = after := Except.ok.inj same
        refine ⟨fun given => ?_, fun isName => ?_⟩
        · by_cases equal : other = field
          · subst equal
            exact absurd given fresh
          · simpa [set, equal] using given
        · obtain rfl : key = schema.name field := Option.some.inj isName
          obtain rfl : field = other := Option.some.inj (named.symm.trans known)
          exact ⟨by simpa using fresh, by simp [set], value, reads⟩

/-- In an object that is read no key of a field comes after the field was given, none comes twice, and
the document under each can be read. -/
theorem foldlM_readMember_eq_ok {draft after : schema.Draft} {field : schema.Field}
    (named : schema.field? (schema.name field) = some field)
    (ok : members.foldlM Draft.readMember draft = .ok after) :
    ((draft field).isSome → some (schema.name field) ∉ members.map (·.1)) ∧
    ¬ List.Duplicate (some (schema.name field)) (members.map (·.1)) ∧
    ∀ json, (some (schema.name field), json) ∈ members →
      ∃ value, schema.read field json = .ok value := by
  induction members generalizing draft with
  | nil => exact ⟨fun _ => List.not_mem_nil, List.not_duplicate_nil _, fun _ => nofun⟩
  | cons member rest ih =>
    rw [List.foldlM_cons] at ok
    obtain ⟨next, first, ok⟩ := Outcome.bind_eq_ok.mp ok
    obtain ⟨keeps, fresh⟩ := Draft.readMember_eq_ok first named
    obtain ⟨absent, once, reads⟩ := ih ok
    refine ⟨fun given => ?_, ?_, fun json there => ?_⟩
    · rw [List.map_cons, List.mem_cons, not_or]
      refine ⟨fun same => ?_, absent (keeps given)⟩
      rw [(fresh same.symm).1] at given
      cases given
    · rw [List.map_cons, List.duplicate_cons_iff, not_or]
      exact ⟨fun ⟨same, later⟩ => absent (fresh same).2.1 later, once⟩
    · rcases List.mem_cons.mp there with rfl | later
      · exact (fresh rfl).2.2
      · exact reads json later

theorem readValues_eq_ok {closed : Bool} {field : schema.Field}
    (named : schema.field? (schema.name field) = some field)
    (ok : schema.readValues (.object members closed) = .ok values) :
    ¬ List.Duplicate (some (schema.name field)) (members.map (·.1)) ∧
    ∀ json, (some (schema.name field), json) ∈ members →
      ∃ value, schema.read field json = .ok value := by
  obtain ⟨draft, drafted, _⟩ := Outcome.bind_eq_ok.mp ok
  exact (foldlM_readMember_eq_ok named drafted).2

/-! ### Keys without a value -/

theorem none_not_mem_of_foldlM_readMember {draft after : schema.Draft}
    (ok : members.foldlM Draft.readMember draft = .ok after) : none ∉ members.map (·.1) := by
  induction members generalizing draft with
  | nil => exact List.not_mem_nil
  | cons member rest ih =>
    obtain ⟨key, json⟩ := member
    rw [List.foldlM_cons] at ok
    obtain ⟨next, first, ok⟩ := Outcome.bind_eq_ok.mp ok
    rw [List.map_cons, List.mem_cons, not_or]
    refine ⟨?_, ih ok⟩
    rintro rfl
    cases first

/-- In an object that is read every key has a value, also one of no field. -/
theorem none_not_mem_of_readValues {closed : Bool}
    (ok : schema.readValues (.object members closed) = .ok values) : none ∉ members.map (·.1) := by
  obtain ⟨draft, drafted, _⟩ := Outcome.bind_eq_ok.mp ok
  exact none_not_mem_of_foldlM_readMember drafted

end Schema
end PaymentChannel.Json
