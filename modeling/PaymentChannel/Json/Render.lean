import PaymentChannel.Hex
import PaymentChannel.Json.Document

/-! The text of a document, with no blanks. Where there is no value to write, the shortest form that
reads as having none stands for it; what is not closed stays open. -/
namespace PaymentChannel.Json

def escapeText (c : Char) : List Char :=
  if c = '"' ∨ c = '\\' then ['\\', c]
  else if c = '\n' then ['\\', 'n']
  else if c = '\r' then ['\\', 'r']
  else if c = '\t' then ['\\', 't']
  else if c = '\x08' then ['\\', 'b']
  else if c = '\x0c' then ['\\', 'f']
  else if c.toNat < 0x20 then
    ['\\', 'u', '0', '0', Hex.digit (c.toNat / 16), Hex.digit (c.toNat % 16)]
  else [c]

def renderString (s : String) : List Char := '"' :: s.toList.flatMap escapeText ++ ['"']

def renderKey : Option String → List Char
  | some s => renderString s
  | none => ['"', '\\', 'u', 'd', '8', '0', '0', '"']

mutual

def renderChars : Json → List Char
  | .null => ['n', 'u', 'l', 'l']
  | .boolean true => ['t', 'r', 'u', 'e']
  | .boolean false => ['f', 'a', 'l', 's', 'e']
  | .number (some n) => (toString n).toList
  | .number none => ['0', '.', '0']
  | .text value => renderKey value
  | .array items closed => '[' :: renderItems items ++ (if closed then [']'] else [])
  | .object members closed =>
    Char.ofNat 0x7b :: renderMembers members ++ (if closed then [Char.ofNat 0x7d] else [])
  | .broken => []

def renderItems : List Json → List Char
  | [] => []
  | [item] => renderChars item
  | item :: rest => renderChars item ++ ',' :: renderItems rest

def renderMembers : List (Option String × Json) → List Char
  | [] => []
  | [(key, value)] => renderKey key ++ ':' :: renderChars value
  | (key, value) :: rest => renderKey key ++ ':' :: renderChars value ++ ',' :: renderMembers rest

end

def render (json : Json) : String := String.ofList json.renderChars

end PaymentChannel.Json
