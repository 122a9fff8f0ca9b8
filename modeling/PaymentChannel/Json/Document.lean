import PaymentChannel.Json.Token

/-! JSON documents, as far as their text could be read. A list or an object whose end was not
reached is kept with what it held so far, so that what is wrong with a part of a text is known even
where a later part is no JSON. -/
namespace PaymentChannel

inductive Json
  | null
  | boolean (value : Bool)
  | number (value : Option Int)
  | text (value : Option String)
  | array (items : List Json) (closed : Bool)
  | object (members : List (Option String × Json)) (closed : Bool)
  /-- A value of which nothing could be read. -/
  | broken

namespace Json

def nat (n : Nat) : Json := .number (some n)

def string (s : String) : Json := .text (some s)

def list (items : List Json) : Json := .array items true

def record (members : List (String × Json)) : Json :=
  .object (members.map fun (key, value) => (some key, value)) true

def option (write : α → Json) : Option α → Json
  | some a => write a
  | none => .null

/-- The value of the last member of an object under a key. -/
def member? (key : String) : Json → Option Json
  | .object members _ => (members.reverse.find? (·.1 == some key)).map (·.2)
  | _ => none

def text? : Json → Option String
  | .text value => value
  | _ => none

def natBelow? (bound : Nat) : Json → Option Nat
  | .number (some n) => if 0 ≤ n ∧ n < bound then some n.toNat else none
  | _ => none

/-- The values of a record with the given fields: the members of an object by those names, or the
items of a list of as many. -/
def values? (names : List String) (json : Json) : Option (List Json) :=
  match json with
  | .object _ _ => names.mapM fun name => json.member? name
  | .array items _ => if items.length = names.length then some items else none
  | _ => none

/-- A list or object still open, with what it holds so far, last first, and the key of an object
whose value comes next. -/
inductive Frame
  | array (items : List Json)
  | object (members : List (Option String × Json)) (key : Option (Option String))

/-- What can come next: a value, a value or the end of a list, a key, a key or the end of an object,
the colon after a key, or what follows a value. -/
inductive Expected
  | value
  | valueOrEnd
  | key
  | keyOrEnd
  | colon
  | separator

inductive Builder
  | reading (expected : Expected) (stack : List Frame)
  /-- The text so far is one whole value. -/
  | finished (value : Json)
  /-- A token came that cannot follow. -/
  | stopped (value : Json)

namespace Builder

/-- The document where all that is open stays open; `inner` stands in the innermost frame. -/
def abandon : List Frame → Option Json → Json
  | [], inner => inner.getD .broken
  | .array items :: rest, inner => abandon rest (some (.array (inner.toList ++ items).reverse false))
  | .object members key :: rest, inner =>
    let last := (key.map fun k => (k, inner.getD .broken)).toList
    abandon rest (some (.object (last ++ members).reverse false))

def stop (stack : List Frame) : Builder := .stopped (abandon stack none)

def place (value : Json) : List Frame → Builder
  | [] => .finished value
  | .array items :: rest => .reading .separator (.array (value :: items) :: rest)
  | .object members key :: rest =>
    .reading .separator (.object ((key.getD none, value) :: members) none :: rest)

def close : List Frame → Builder
  | [] => stop []
  | .array items :: rest => place (.array items.reverse true) rest
  | .object members _ :: rest => place (.object members.reverse true) rest

def readValue (stack : List Frame) : Token → Builder
  | .null => place .null stack
  | .boolean value => place (.boolean value) stack
  | .number value => place (.number value) stack
  | .text value => place (.text value) stack
  | .openBracket => .reading .valueOrEnd (.array [] :: stack)
  | .openBrace => .reading .keyOrEnd (.object [] none :: stack)
  | _ => stop stack

def readKey (key : Option String) : List Frame → Builder
  | .object members _ :: rest => .reading .colon (.object members (some key) :: rest)
  | stack => stop stack

def advance : Builder → Token → Builder
  | .finished value, _ => .stopped value
  | .stopped value, _ => .stopped value
  | .reading expected stack, token =>
    match expected, token with
    | .value, _ => readValue stack token
    | .valueOrEnd, .closeBracket => close stack
    | .valueOrEnd, _ => readValue stack token
    | .keyOrEnd, .closeBrace => close stack
    | .keyOrEnd, .text key => readKey key stack
    | .key, .text key => readKey key stack
    | .colon, .colon => .reading .value stack
    | .separator, _ =>
      match stack, token with
      | .array _ :: _, .comma => .reading .value stack
      | .array _ :: _, .closeBracket => close stack
      | .object _ _ :: _, .comma => .reading .key stack
      | .object _ _ :: _, .closeBrace => close stack
      | _, _ => stop stack
    | _, _ => stop stack

def result : Builder → Json × Bool
  | .reading _ stack => (abandon stack none, false)
  | .finished value => (value, true)
  | .stopped value => (value, false)

end Builder

/-- The document of a text, and whether the text is that document and nothing else. -/
def ofText (text : String) : Json × Bool :=
  ((tokens text).foldl Builder.advance (.reading .value [])).result

end Json
end PaymentChannel
