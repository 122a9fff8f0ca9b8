import PaymentChannel.Json.Render

/-! The text of a document for people: a line for each item and member, two blanks deeper at each
level, the members of an object in ascending order of their keys. -/
namespace PaymentChannel.Json

def newLine (depth : Nat) : List Char := '\n' :: List.replicate (2 * depth) ' '

/-- The items on lines of their own, between an opening and a closing character. -/
def block (depth : Nat) (front back : Char) : List (List Char) → List Char
  | [] => [front, back]
  | item :: rest =>
    front :: newLine (depth + 1) ++ item ++
      rest.flatMap (fun item => ',' :: newLine (depth + 1) ++ item) ++ newLine depth ++ [back]

mutual

def prettyChars (depth : Nat) : Json → List Char
  | .array items _ => block depth '[' ']' (prettyItems (depth + 1) items)
  | .object members _ =>
    let sorted := (prettyMembers (depth + 1) members).mergeSort fun a b => a.1 ≤ b.1
    block depth (Char.ofNat 0x7b) (Char.ofNat 0x7d) (sorted.map (·.2))
  | json => json.renderChars

def prettyItems (depth : Nat) : List Json → List (List Char)
  | [] => []
  | item :: rest => prettyChars depth item :: prettyItems depth rest

def prettyMembers (depth : Nat) : List (Option String × Json) → List (List Char × List Char)
  | [] => []
  | (key, value) :: rest =>
    (renderKey key, renderKey key ++ ':' :: ' ' :: prettyChars depth value) ::
      prettyMembers depth rest

end

def pretty (json : Json) : String := String.ofList (json.prettyChars 0)

end PaymentChannel.Json
