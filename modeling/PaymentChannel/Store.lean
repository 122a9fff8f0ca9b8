import PaymentChannel.Snapshot.Json

/-! A store of channels in memory: one text for each name, the names in ascending order of their
UTF-8 bytes. -/
namespace PaymentChannel

inductive StoreError
  | notFound (name : String)
  /-- The stored text is not that of a snapshot. -/
  | unreadable (cause : Fault)

structure Store where
  entries : List (String × String) := []
deriving DecidableEq

namespace Store

/-- Puts a text in its place, or in that of the text under the same name. -/
def insert (name text : String) : List (String × String) → List (String × String)
  | [] => [(name, text)]
  | entry :: rest =>
    if entry.1 = name then (name, text) :: rest
    else if Text.utf8 name < Text.utf8 entry.1 then (name, text) :: entry :: rest
    else entry :: insert name text rest

def put (store : Store) (name : String) (snapshot : Snapshot) : Store :=
  ⟨insert name snapshot.toText store.entries⟩

def get (store : Store) (name : String) : Except StoreError Snapshot :=
  match store.entries.lookup name with
  | none => .error (.notFound name)
  | some text =>
    match Snapshot.ofText text with
    | .ok snapshot => .ok snapshot
    | .error cause => .error (.unreadable cause)

def names (store : Store) : List String := store.entries.map (·.1)

def delete (store : Store) (name : String) : Except StoreError Store :=
  if name ∈ store.names then .ok ⟨store.entries.eraseP (·.1 == name)⟩
  else .error (.notFound name)

end Store

def StoreError.message : StoreError → String
  | .notFound name => name
  | .unreadable cause => cause.report.display

end PaymentChannel
