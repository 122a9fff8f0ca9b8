/-! JSON text as a sequence of tokens. Each character moves a small machine to its next mode and may
complete a token; where no token can follow, the sequence ends in one that says so. -/
namespace PaymentChannel.Json

inductive Token
  | openBrace
  | closeBrace
  | openBracket
  | closeBracket
  | colon
  | comma
  | null
  | boolean (value : Bool)
  /-- A number, with its value where it is written as an integer. -/
  | number (value : Option Int)
  /-- A text, with its value unless some escape in it stands for no character. -/
  | text (value : Option String)
  | malformed
deriving DecidableEq

/-- A part of a text: a character, or a 16-bit unit given by an escape. -/
inductive Piece
  | char (c : Char)
  | unit (value : Nat)

/-- The characters of a text. Two units make one character where they are a surrogate pair, and a
unit of one half alone makes none. -/
def Piece.join : List Piece → Option (List Char)
  | [] => some []
  | .char c :: rest => (join rest).map (c :: ·)
  | .unit high :: .unit low :: rest =>
    if 0xd800 ≤ high ∧ high ≤ 0xdbff then
      if 0xdc00 ≤ low ∧ low ≤ 0xdfff then
        (join rest).map (Char.ofNat (0x10000 + (high - 0xd800) * 0x400 + (low - 0xdc00)) :: ·)
      else none
    else if 0xdc00 ≤ high ∧ high ≤ 0xdfff then none
    else (join (.unit low :: rest)).map (Char.ofNat high :: ·)
  | .unit value :: rest =>
    if 0xd800 ≤ value ∧ value ≤ 0xdfff then none
    else (join rest).map (Char.ofNat value :: ·)

/-- How far a number is read: after its sign, a zero, other digits, the point, the digits after it,
the mark of an exponent, the sign of that, or its digits. -/
inductive NumberPhase
  | sign
  | zero
  | integer
  | point
  | fraction
  | mark
  | markSign
  | exponent
deriving DecidableEq

namespace NumberPhase

def isComplete : NumberPhase → Bool
  | .zero | .integer | .fraction | .exponent => true
  | _ => false

def isInteger : NumberPhase → Bool
  | .zero | .integer => true
  | _ => false

/-- The phase after one more character, where the number can go on with it. -/
def next? (phase : NumberPhase) (c : Char) : Option NumberPhase :=
  let marks := c = 'e' ∨ c = 'E'
  match phase with
  | .sign => if c = '0' then some .zero else if c.isDigit then some .integer else none
  | .zero => if c = '.' then some .point else if marks then some .mark else none
  | .integer =>
    if c.isDigit then some .integer
    else if c = '.' then some .point
    else if marks then some .mark
    else none
  | .point => if c.isDigit then some .fraction else none
  | .fraction => if c.isDigit then some .fraction else if marks then some .mark else none
  | .mark =>
    if c.isDigit then some .exponent
    else if c = '+' ∨ c = '-' then some .markSign
    else none
  | .markSign | .exponent => if c.isDigit then some .exponent else none

end NumberPhase

/-- Where the machine stands; what it has read of a text is kept last first. -/
inductive Mode
  | between
  | name (rest : List Char) (token : Token)
  | number (negative : Bool) (phase : NumberPhase) (value : Nat)
  | text (pieces : List Piece)
  | escape (pieces : List Piece)
  | unit (pieces : List Piece) (missing : Nat) (value : Nat)
  | stopped

/-- A zero with a minus sign has no integer value. -/
def numberToken (negative : Bool) (phase : NumberPhase) (value : Nat) : Token :=
  if phase.isInteger && !(negative && value == 0) then
    .number (some (if negative then -(value : Int) else value))
  else .number none

def textToken (pieces : List Piece) : Token :=
  .text ((Piece.join pieces.reverse).map String.ofList)

def digitValue (c : Char) : Nat := c.toNat - '0'.toNat

def hexValue? (c : Char) : Option Nat :=
  if c.isDigit then some (digitValue c)
  else if 'a' ≤ c ∧ c ≤ 'f' then some (c.toNat - 87)
  else if 'A' ≤ c ∧ c ≤ 'F' then some (c.toNat - 55)
  else none

def escaped? : Char → Option Char
  | '"' => some '"'
  | '\\' => some '\\'
  | '/' => some '/'
  | 'b' => some '\x08'
  | 'f' => some '\x0c'
  | 'n' => some '\n'
  | 'r' => some '\r'
  | 't' => some '\t'
  | _ => none

def isBlank (c : Char) : Bool := c == ' ' || c == '\n' || c == '\t' || c == '\r'

/-- The single characters that are tokens. -/
def mark? (c : Char) : Option Token :=
  if c.toNat = 0x7b then some .openBrace
  else if c.toNat = 0x7d then some .closeBrace
  else if c = '[' then some .openBracket
  else if c = ']' then some .closeBracket
  else if c = ':' then some .colon
  else if c = ',' then some .comma
  else none

def fail : List Token × Mode := ([.malformed], .stopped)

def start (c : Char) : List Token × Mode :=
  if isBlank c then ([], .between)
  else
    match mark? c with
    | some token => ([token], .between)
    | none =>
      match c with
      | '"' => ([], .text [])
      | 'n' => ([], .name ['u', 'l', 'l'] .null)
      | 't' => ([], .name ['r', 'u', 'e'] (.boolean true))
      | 'f' => ([], .name ['a', 'l', 's', 'e'] (.boolean false))
      | '-' => ([], .number true .sign 0)
      | '0' => ([], .number false .zero 0)
      | c => if c.isDigit then ([], .number false .integer (digitValue c)) else fail

def step : Mode → Char → List Token × Mode
  | .between, c => start c
  | .name [] _, _ => fail
  | .name [last] token, c => if c = last then ([token], .between) else fail
  | .name (next :: rest) token, c => if c = next then ([], .name rest token) else fail
  | .number negative phase value, c =>
    match phase.next? c with
    | some next =>
      ([], .number negative next (if next.isInteger then 10 * value + digitValue c else value))
    | none =>
      if phase.isComplete then
        let (tokens, mode) := start c
        (numberToken negative phase value :: tokens, mode)
      else fail
  | .text pieces, c =>
    if c = '"' then ([textToken pieces], .between)
    else if c = '\\' then ([], .escape pieces)
    else if c.toNat < 0x20 then fail
    else ([], .text (.char c :: pieces))
  | .escape pieces, c =>
    if c = 'u' then ([], .unit pieces 3 0)
    else
      match escaped? c with
      | some char => ([], .text (.char char :: pieces))
      | none => fail
  | .unit pieces missing value, c =>
    match hexValue? c with
    | none => fail
    | some digit =>
      let value := 16 * value + digit
      match missing with
      | 0 => ([], .text (.unit value :: pieces))
      | missing + 1 => ([], .unit pieces missing value)
  | .stopped, _ => ([], .stopped)

def finish : Mode → List Token
  | .between | .stopped => []
  | .number negative phase value =>
    if phase.isComplete then [numberToken negative phase value] else [.malformed]
  | _ => [.malformed]

def tokensFrom (mode : Mode) : List Char → List Token
  | [] => finish mode
  | c :: rest =>
    let (tokens, mode) := step mode c
    tokens ++ tokensFrom mode rest

def tokens (text : String) : List Token := tokensFrom .between text.toList

end PaymentChannel.Json
