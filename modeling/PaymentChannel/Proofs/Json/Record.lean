import PaymentChannel.Json.Record

/-! What readers give for the documents of values. A part is read from what was written of it. A draft
of a record holds the fields that were read so far, each with its own value; the next field is a new
one, and the record is done when all of them are there. -/
namespace PaymentChannel.Json

variable {ε α : Type}

namespace Reader

theorem parsed_string {parse : String → Option α} {s : String} {a : α} (ok : parse s = some a) :
    (parsed parse : Reader ε α) (.string s) = .ok a := by
  simp only [parsed, text, string, text?, bind, Except.bind, ok]
  rfl

theorem judged_eq_ok_iff {parse : String → Except ε α} {s : String} {a : α} :
    judged parse (.string s) = .ok a ↔ parse s = .ok a := by
  simp only [judged, text, string, text?, bind, Except.bind]
  cases parse s with
  | ok found => simp [pure, Except.pure]
  | error cause => simp

theorem judged_string {parse : String → Except ε α} {s : String} {a : α} (ok : parse s = .ok a) :
    judged parse (.string s) = .ok a :=
  judged_eq_ok_iff.mpr ok

theorem judged_string_error {parse : String → Except ε α} {s : String} {cause : ε}
    (fails : parse s = .error cause) : judged parse (.string s) = .error (.badValue cause) := by
  simp only [judged, text, string, text?, bind, Except.bind, fails]
  rfl

theorem optional_eq_ok_iff {read : Reader ε α} {s : String} {value : Option α} :
    optional read (.string s) = .ok value ↔ ∃ a, value = some a ∧ read (.string s) = .ok a := by
  simp only [optional, string]
  cases read (.text (some s)) with
  | ok found => simp [Functor.map, Except.map, eq_comm]
  | error cause => simp [Functor.map, Except.map]

theorem optional_string {read : Reader ε α} {write : α → String} {value : Option α}
    (ok : ∀ a ∈ value, read (.string (write a)) = .ok a) :
    optional read (.option (.string <| write ·) value) = .ok value := by
  cases value with
  | none => rfl
  | some a =>
    rw [option, optional, ok a rfl]
    · rfl
    · nofun

theorem optional_string_error {read : Reader ε α} {s : String} {cause : ReadError ε}
    (fails : read (.string s) = .error cause) : optional read (.string s) = .error cause := by
  change some <$> read (.string s) = _
  rw [fails]
  rfl

theorem list_map {read : Reader ε α} {write : α → Json} {items : List α}
    (ok : ∀ a ∈ items, read (write a) = .ok a) :
    list read (.list (items.map write)) = .ok items := by
  have values : (items.map write).mapM read = .ok items := by
    induction items with
    | nil => rfl
    | cons a rest ih =>
      rw [List.forall_mem_cons] at ok
      rw [List.map_cons, List.mapM_cons, ok.1, ih ok.2]
      rfl
  simp only [list, Json.list, values, bind, Except.bind]
  rfl

end Reader

namespace Schema

variable {schema : Schema ε}

/-- The draft in which some fields were given, each with its value. -/
def Draft.of (values : schema.Values) (given : List schema.Field) : schema.Draft := fun field =>
  if field ∈ given then some (values field) else none

theorem Draft.set_of (values : schema.Values) (given : List schema.Field) (field : schema.Field) :
    (Draft.of values given).set field (values field) = Draft.of values (field :: given) := by
  funext other
  by_cases same : field = other
  · subst same
    simp [Draft.set, Draft.of]
  · simp [Draft.set, Draft.of, same, Ne.symm same]

theorem Draft.finish_of {values : schema.Values} {given : List schema.Field}
    (all : ∀ field, field ∈ given) : (Draft.of values given).finish = .ok values := by
  have present : ∀ field, Draft.of values given field = some (values field) := fun field =>
    if_pos (all field)
  rw [Draft.finish]
  split
  · rename_i field missing
    have absent := List.find?_some missing
    rw [present] at absent
    cases absent
  · simp only [present, Option.get_some]

theorem Draft.readMember_of {values : schema.Values} {given : List schema.Field}
    {field : schema.Field} {json : Json} (named : schema.field? (schema.name field) = some field)
    (written : schema.read field json = .ok (values field)) (missing : field ∉ given) :
    (Draft.of values given).readMember (some (schema.name field), json) =
      .ok (Draft.of values (field :: given)) := by
  have absent : ((Draft.of values given) field).isSome = false := by simp [Draft.of, missing]
  simp only [readMember, named, absent, written, bind, Except.bind, Draft.set_of]
  rfl

end Schema
end PaymentChannel.Json
