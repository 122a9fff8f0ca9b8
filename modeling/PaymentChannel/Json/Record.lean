import PaymentChannel.Json.Document

/-! Records read from JSON: a fixed set of fields, each of which has to be given once. An object
gives them by name, in any order and among members of other names; a list gives exactly their
values in the order of the fields. A document is read from its start, and the first thing wrong
with it is reported. -/
namespace PaymentChannel.Json

/-- What is wrong with a document; `ε` is what can be wrong with a value of the right shape. -/
inductive ReadError (ε : Type)
  | malformed
  | missingField (name : String)
  | duplicateField (name : String)
  | badValue (cause : ε)
deriving DecidableEq

def ReadError.message (causeMessage : ε → String) : ReadError ε → String
  | .malformed => "malformed"
  | .missingField name => s!"missing field `{name}`"
  | .duplicateField name => s!"duplicate field `{name}`"
  | .badValue cause => causeMessage cause

abbrev Reader (ε α : Type) := Json → Except (ReadError ε) α

namespace Reader

def text : Reader ε String := fun json =>
  match json.text? with
  | some value => .ok value
  | none => .error .malformed

/-- A text that a function has to understand. -/
def parsed (parse : String → Option α) : Reader ε α := fun json => do
  let value ← text json
  match parse value with
  | some a => return a
  | none => throw .malformed

/-- A text whose faults are told apart. -/
def judged (parse : String → Except ε α) : Reader ε α := fun json => do
  let value ← text json
  match parse value with
  | .ok a => return a
  | .error cause => throw (.badValue cause)

def optional (read : Reader ε α) : Reader ε (Option α)
  | .null => .ok none
  | json => some <$> read json

def list (read : Reader ε α) : Reader ε (List α)
  | .array items closed => do
    let values ← items.mapM read
    if closed then return values else throw .malformed
  | _ => .error .malformed

end Reader

mutual

/-- Whether all of a value was read, so that one of no interest can be passed over. -/
def isWhole : Json → Bool
  | .array items closed => areWhole items && closed
  | .object members closed => areWholeMembers members && closed
  | .broken => false
  | _ => true

def areWhole : List Json → Bool
  | [] => true
  | item :: rest => isWhole item && areWhole rest

def areWholeMembers : List (Option String × Json) → Bool
  | [] => true
  | (_, value) :: rest => isWhole value && areWholeMembers rest

end

/-- The fields of a record, in order, with the name, type and reader of each. -/
structure Schema (ε : Type) where
  Field : Type
  [decEq : DecidableEq Field]
  fields : List Field
  complete : ∀ field, field ∈ fields
  name : Field → String
  Value : Field → Type
  read : (field : Field) → Reader ε (Value field)

namespace Schema

variable {ε : Type} (schema : Schema ε)

instance : DecidableEq schema.Field := schema.decEq

abbrev Draft := (field : schema.Field) → Option (schema.Value field)

abbrev Values := (field : schema.Field) → schema.Value field

def field? (name : String) : Option schema.Field := schema.fields.find? (schema.name · == name)

variable {schema}

def Draft.set (draft : schema.Draft) (field : schema.Field) (value : schema.Value field) :
    schema.Draft := fun other =>
  if h : field = other then some (h ▸ value) else draft other

/-- The record, where every field has its value. -/
def Draft.finish (draft : schema.Draft) : Except (ReadError ε) schema.Values :=
  match h : schema.fields.find? fun field => (draft field).isNone with
  | some field => .error (.missingField (schema.name field))
  | none => .ok fun field => (draft field).get (by
      have present := List.find?_eq_none.mp h field (schema.complete field)
      simpa [Option.isSome_iff_ne_none] using present)

/-- One member of an object. That a field was given before is found before its value is read. -/
def Draft.readMember (draft : schema.Draft) (member : Option String × Json) :
    Except (ReadError ε) schema.Draft :=
  match member.1 with
  | none => .error .malformed
  | some name =>
    match schema.field? name with
    | none => if isWhole member.2 then .ok draft else .error .malformed
    | some field =>
      if (draft field).isSome then .error (.duplicateField name)
      else return draft.set field (← schema.read field member.2)

def Draft.readItem (draft : schema.Draft) (item : schema.Field × Json) :
    Except (ReadError ε) schema.Draft := do
  return draft.set item.1 (← schema.read item.1 item.2)

variable (schema)

def readValues : Reader ε schema.Values
  | .object members closed => do
    let draft ← members.foldlM Draft.readMember fun _ => none
    if closed then draft.finish else throw .malformed
  | .array items closed => do
    let draft ← (schema.fields.zip items).foldlM Draft.readItem fun _ => none
    if closed ∧ items.length = schema.fields.length then draft.finish else throw .malformed
  | _ => .error .malformed

end Schema

/-- Reads a whole text. What is wrong inside its document comes before what follows it. -/
def readText (read : Reader ε α) (text : String) : Except (ReadError ε) α := do
  let (json, whole) := ofText text
  let value ← read json
  if whole then return value else throw .malformed

end PaymentChannel.Json
