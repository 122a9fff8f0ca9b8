import Mathlib.Tactic.SplitIfs
import PaymentChannel.Json.Record
import PaymentChannel.Json.Render

/-! The text of a document reads as that document. Between the two stand its tokens: the text is
scanned into exactly these, whatever follows it, and from these the document is built, whatever it
stands in. -/
namespace PaymentChannel.Json

mutual

/-- The tokens of a document. -/
def lexemes : Json → List Token
  | .null => [.null]
  | .boolean value => [.boolean value]
  | .number value => [.number value]
  | .text value => [.text value]
  | .array items closed =>
    .openBracket :: itemLexemes items ++ (if closed then [.closeBracket] else [])
  | .object members closed =>
    .openBrace :: memberLexemes members ++ (if closed then [.closeBrace] else [])
  | .broken => []

def itemLexemes : List Json → List Token
  | [] => []
  | [item] => lexemes item
  | item :: rest => lexemes item ++ .comma :: itemLexemes rest

def memberLexemes : List (Option String × Json) → List Token
  | [] => []
  | [(key, value)] => .text key :: .colon :: lexemes value
  | (key, value) :: rest => .text key :: .colon :: lexemes value ++ .comma :: memberLexemes rest

end

mutual

/-- Whether a document is all there and no part of it is a number. -/
def isPlain : Json → Bool
  | .null | .boolean _ => true
  | .text value => value.isSome
  | .array items closed => arePlain items && closed
  | .object members closed => arePlainMembers members && closed
  | .number _ | .broken => false

def arePlain : List Json → Bool
  | [] => true
  | item :: rest => isPlain item && arePlain rest

def arePlainMembers : List (Option String × Json) → Bool
  | [] => true
  | (key, value) :: rest => key.isSome && isPlain value && arePlainMembers rest

end

theorem isPlain_option {α : Type} {write : α → Json} (each : ∀ a, (write a).isPlain)
    (value : Option α) : (option write value).isPlain := by
  cases value with
  | none => rfl
  | some a => exact each a

theorem isPlain_list {items : List Json} (each : ∀ item ∈ items, item.isPlain) :
    (list items).isPlain := by
  rw [list, isPlain, Bool.and_true]
  induction items with
  | nil => rfl
  | cons item rest ih =>
    rw [List.forall_mem_cons] at each
    rw [arePlain, Bool.and_eq_true]
    exact ⟨each.1, ih each.2⟩

theorem isPlain_record {members : List (String × Json)} (each : ∀ member ∈ members, member.2.isPlain) :
    (record members).isPlain := by
  rw [record, isPlain, Bool.and_true]
  induction members with
  | nil => rfl
  | cons member rest ih =>
    rw [List.forall_mem_cons] at each
    rw [List.map_cons, arePlainMembers, Bool.and_eq_true, Bool.and_eq_true]
    exact ⟨⟨rfl, each.1⟩, ih each.2⟩

mutual

theorem isWhole_of_isPlain (json : Json) (plain : json.isPlain) : json.isWhole := by
  cases json with
  | array items closed =>
    simp only [isPlain, Bool.and_eq_true] at plain
    simp only [isWhole, Bool.and_eq_true]
    exact ⟨areWhole_of_arePlain items plain.1, plain.2⟩
  | object members closed =>
    simp only [isPlain, Bool.and_eq_true] at plain
    simp only [isWhole, Bool.and_eq_true]
    exact ⟨areWholeMembers_of_arePlainMembers members plain.1, plain.2⟩
  | null | boolean value | text value => rfl
  | number value | broken => cases plain

theorem areWhole_of_arePlain (items : List Json) (plain : arePlain items) : areWhole items := by
  cases items with
  | nil => rfl
  | cons item rest =>
    simp only [arePlain, Bool.and_eq_true] at plain
    simp only [areWhole, Bool.and_eq_true]
    exact ⟨isWhole_of_isPlain item plain.1, areWhole_of_arePlain rest plain.2⟩

theorem areWholeMembers_of_arePlainMembers (members : List (Option String × Json))
    (plain : arePlainMembers members) : areWholeMembers members := by
  cases members with
  | nil => rfl
  | cons member rest =>
    simp only [arePlainMembers, Bool.and_eq_true] at plain
    simp only [areWholeMembers, Bool.and_eq_true]
    exact ⟨isWhole_of_isPlain member.2 plain.1.2, areWholeMembers_of_arePlainMembers rest plain.2⟩

end

/-! ### Texts -/

theorem Piece.join_unit {value : Nat} (single : ¬ (0xd800 ≤ value ∧ value ≤ 0xdfff)) :
    join [.unit value] = some [Char.ofNat value] := by
  simp only [join, if_neg single, Option.map_some]

/-- A piece that means a character by itself means it in front of any others. -/
theorem Piece.join_cons {piece : Piece} {c : Char} (means : join [piece] = some [c])
    (rest : List Piece) : join (piece :: rest) = (join rest).map (c :: ·) := by
  cases piece with
  | char c' =>
    cases means
    rfl
  | unit value =>
    by_cases single : 0xd800 ≤ value ∧ value ≤ 0xdfff
    · simp [join, single] at means
    · rw [join_unit single] at means
      cases means
      have notHigh : ¬ (0xd800 ≤ value ∧ value ≤ 0xdbff) := by omega
      have notLow : ¬ (0xdc00 ≤ value ∧ value ≤ 0xdfff) := by omega
      match rest with
      | [] => exact join_unit single
      | .char c :: rest => simp only [join, if_neg single]
      | .unit low :: rest => rw [join, if_neg notHigh, if_neg notLow]

theorem hexValue?_digit : ∀ n < 16, hexValue? (Hex.digit n) = some n := by decide

theorem tokensFrom_control {value : Nat} (small : value < 0x20) (pieces : List Piece)
    (rest : List Char) :
    tokensFrom (.text pieces) (['\\', 'u', '0', '0', Hex.digit (value / 16),
      Hex.digit (value % 16)] ++ rest) = tokensFrom (.text (.unit value :: pieces)) rest := by
  have high := hexValue?_digit (value / 16) (by omega)
  have low := hexValue?_digit (value % 16) (by omega)
  have whole : 16 * (value / 16) + value % 16 = value := by omega
  have zeros : ∀ chars, tokensFrom (.text pieces) ('\\' :: 'u' :: '0' :: '0' :: chars) =
      tokensFrom (.unit pieces 1 0) chars := fun _ => rfl
  simp only [List.cons_append, List.nil_append, zeros]
  simp only [tokensFrom, step, high, low, Nat.mul_zero, Nat.zero_add, whole, List.nil_append]

/-- What stands for a character in a text is read as one piece that means it. -/
theorem tokensFrom_escapeText (c : Char) : ∃ piece, Piece.join [piece] = some [c] ∧
    ∀ pieces rest, tokensFrom (.text pieces) (escapeText c ++ rest) =
      tokensFrom (.text (piece :: pieces)) rest := by
  rw [escapeText]
  split_ifs with mark newline return_ tab back feed control
  · refine ⟨.char c, rfl, fun pieces rest => ?_⟩
    rcases mark with rfl | rfl <;> rfl
  · exact ⟨.char c, rfl, fun pieces rest => newline ▸ rfl⟩
  · exact ⟨.char c, rfl, fun pieces rest => return_ ▸ rfl⟩
  · exact ⟨.char c, rfl, fun pieces rest => tab ▸ rfl⟩
  · exact ⟨.char c, rfl, fun pieces rest => back ▸ rfl⟩
  · exact ⟨.char c, rfl, fun pieces rest => feed ▸ rfl⟩
  · have single : ¬ (0xd800 ≤ c.toNat ∧ c.toNat ≤ 0xdfff) := by omega
    refine ⟨.unit c.toNat, ?_, fun pieces rest => tokensFrom_control control pieces rest⟩
    rw [Piece.join_unit single, Char.ofNat_toNat]
  · refine ⟨.char c, rfl, fun pieces rest => ?_⟩
    obtain ⟨notQuote, notBackslash⟩ := not_or.mp mark
    simp only [List.singleton_append, tokensFrom, step, if_neg notQuote, if_neg notBackslash,
      if_neg control, List.nil_append]

/-- The characters of a text are read as pieces that mean them. -/
theorem tokensFrom_flatMap_escapeText (chars : List Char) : ∃ pieces,
    Piece.join pieces = some chars ∧ ∀ before rest,
      tokensFrom (.text before) (chars.flatMap escapeText ++ rest) =
        tokensFrom (.text (pieces.reverse ++ before)) rest := by
  induction chars with
  | nil => exact ⟨[], rfl, fun _ _ => rfl⟩
  | cons c chars ih =>
    obtain ⟨piece, means, first⟩ := tokensFrom_escapeText c
    obtain ⟨pieces, joined, others⟩ := ih
    refine ⟨piece :: pieces, by rw [Piece.join_cons means, joined]; rfl, fun before rest => ?_⟩
    rw [List.flatMap_cons, List.append_assoc, first, others, List.reverse_cons, List.append_assoc]
    rfl

theorem tokensFrom_renderString (s : String) (rest : List Char) :
    tokensFrom .between (renderString s ++ rest) = .text (some s) :: tokensFrom .between rest := by
  obtain ⟨pieces, joined, inside⟩ := tokensFrom_flatMap_escapeText s.toList
  have opening : ∀ chars, tokensFrom .between ('"' :: chars) = tokensFrom (.text []) chars :=
    fun _ => rfl
  have closing : ∀ before, tokensFrom (.text before) ('"' :: rest) =
      textToken before :: tokensFrom .between rest := fun _ => rfl
  rw [renderString, List.cons_append, List.cons_append, opening, List.append_assoc, inside,
    List.singleton_append, closing, textToken, List.append_nil, List.reverse_reverse, joined,
    Option.map_some, String.ofList_toList]

/-! ### Scanning -/

mutual

/-- The text of a plain document is scanned into its tokens, whatever comes after. -/
theorem tokensFrom_renderChars (json : Json) (plain : json.isPlain) (rest : List Char) :
    tokensFrom .between (json.renderChars ++ rest) = json.lexemes ++ tokensFrom .between rest := by
  cases json with
  | null => rfl
  | boolean value => cases value <;> rfl
  | text value =>
    obtain ⟨s, rfl⟩ := Option.isSome_iff_exists.mp plain
    exact tokensFrom_renderString s rest
  | array items closed =>
    simp only [isPlain, Bool.and_eq_true] at plain
    obtain ⟨parts, rfl⟩ := plain
    have opening : ∀ chars, tokensFrom .between ('[' :: chars) =
        .openBracket :: tokensFrom .between chars := fun _ => rfl
    have closing : tokensFrom .between (']' :: rest) =
        .closeBracket :: tokensFrom .between rest := rfl
    simp only [renderChars, lexemes, if_true, List.cons_append, List.append_assoc, opening,
      tokensFrom_renderItems items parts, List.nil_append, closing]
  | object members closed =>
    simp only [isPlain, Bool.and_eq_true] at plain
    obtain ⟨parts, rfl⟩ := plain
    have opening : ∀ chars, tokensFrom .between (Char.ofNat 0x7b :: chars) =
        .openBrace :: tokensFrom .between chars := fun _ => rfl
    have closing : tokensFrom .between (Char.ofNat 0x7d :: rest) =
        .closeBrace :: tokensFrom .between rest := rfl
    simp only [renderChars, lexemes, if_true, List.cons_append, List.append_assoc, opening,
      tokensFrom_renderMembers members parts, List.nil_append, closing]
  | number value | broken => cases plain

theorem tokensFrom_renderItems (items : List Json) (plain : arePlain items) (rest : List Char) :
    tokensFrom .between (renderItems items ++ rest) =
      itemLexemes items ++ tokensFrom .between rest := by
  match items with
  | [] => rfl
  | [item] =>
    simp only [arePlain, Bool.and_eq_true] at plain
    exact tokensFrom_renderChars item plain.1 rest
  | item :: next :: others =>
    rw [arePlain, Bool.and_eq_true] at plain
    have comma : ∀ chars, tokensFrom .between (',' :: chars) =
        .comma :: tokensFrom .between chars := fun _ => rfl
    simp only [renderItems, itemLexemes, List.append_assoc, List.cons_append,
      tokensFrom_renderChars item plain.1, comma, tokensFrom_renderItems (next :: others) plain.2]

theorem tokensFrom_renderMembers (members : List (Option String × Json))
    (plain : arePlainMembers members) (rest : List Char) :
    tokensFrom .between (renderMembers members ++ rest) =
      memberLexemes members ++ tokensFrom .between rest := by
  have colon : ∀ chars, tokensFrom .between (':' :: chars) = .colon :: tokensFrom .between chars :=
    fun _ => rfl
  match members with
  | [] => rfl
  | [(key, value)] =>
    simp only [arePlainMembers, Bool.and_eq_true] at plain
    obtain ⟨s, rfl⟩ := Option.isSome_iff_exists.mp plain.1.1
    simp only [renderMembers, renderKey, memberLexemes, List.append_assoc, List.cons_append,
      tokensFrom_renderString, colon, tokensFrom_renderChars value plain.1.2]
  | (key, value) :: next :: others =>
    rw [arePlainMembers, Bool.and_eq_true, Bool.and_eq_true] at plain
    obtain ⟨s, rfl⟩ := Option.isSome_iff_exists.mp plain.1.1
    have comma : ∀ chars, tokensFrom .between (',' :: chars) =
        .comma :: tokensFrom .between chars := fun _ => rfl
    simp only [renderMembers, renderKey, memberLexemes, List.append_assoc, List.cons_append,
      tokensFrom_renderString, colon, tokensFrom_renderChars value plain.1.2, comma,
      tokensFrom_renderMembers (next :: others) plain.2]

end

/-! ### Building -/

namespace Builder

/-- A document does not start with the end of a list. -/
theorem exists_lexemes (json : Json) (whole : json.isWhole) :
    ∃ token rest, json.lexemes = token :: rest ∧ token ≠ .closeBracket := by
  cases json with
  | null | boolean value | number value | text value => exact ⟨_, [], rfl, nofun⟩
  | array items closed | object members closed => exact ⟨_, _, rfl, nofun⟩
  | broken => cases whole

theorem exists_itemLexemes {items : List Json} (whole : areWhole items) (given : items ≠ []) :
    ∃ token rest, itemLexemes items = token :: rest ∧ token ≠ .closeBracket := by
  match items with
  | [] => exact absurd rfl given
  | item :: rest =>
    rw [areWhole, Bool.and_eq_true] at whole
    obtain ⟨token, others, lexemes, value⟩ := exists_lexemes item whole.1
    cases rest with
    | nil => exact ⟨token, others, lexemes, value⟩
    | cons next more => exact ⟨token, _, by simp only [itemLexemes, lexemes]; rfl, value⟩

theorem advance_valueOrEnd {token : Token} (value : token ≠ .closeBracket) (stack : List Frame) :
    advance (.reading .valueOrEnd stack) token = advance (.reading .value stack) token := by
  cases token <;> first | rfl | exact absurd rfl value

/-- The first key of an object comes where the object could also end. -/
theorem foldl_keyOrEnd {members : List (Option String × Json)} (given : members ≠ [])
    (stack : List Frame) :
    (memberLexemes members).foldl advance (.reading .keyOrEnd stack) =
      (memberLexemes members).foldl advance (.reading .key stack) := by
  match members with
  | [] => exact absurd rfl given
  | [_] | _ :: _ :: _ => rfl

mutual

/-- The tokens of a whole document put it where a value is due. -/
theorem foldl_lexemes (json : Json) (whole : json.isWhole) (stack : List Frame) :
    json.lexemes.foldl advance (.reading .value stack) = place json stack := by
  match json with
  | .null | .boolean _ | .number _ | .text _ => rfl
  | .array [] closed =>
    simp only [isWhole, Bool.and_eq_true] at whole
    obtain ⟨_, rfl⟩ := whole
    rfl
  | .array (item :: rest) closed =>
    rw [isWhole, Bool.and_eq_true] at whole
    obtain ⟨parts, rfl⟩ := whole
    -- the list could end at once, but the first token is that of a value
    have items := foldl_itemLexemes (item :: rest) parts (List.cons_ne_nil _ _) [] stack
    obtain ⟨token, others, lexed, value⟩ := exists_itemLexemes parts (List.cons_ne_nil _ _)
    rw [lexed, List.foldl_cons, ← advance_valueOrEnd value, ← List.foldl_cons, ← lexed] at items
    rw [lexemes, List.cons_append, List.foldl_cons, List.foldl_append]
    change List.foldl advance ((itemLexemes (item :: rest)).foldl advance
      (.reading .valueOrEnd (.array [] :: stack))) _ = _
    rw [items, List.append_nil]
    change place (.array (item :: rest).reverse.reverse true) stack = _
    rw [List.reverse_reverse]
  | .object [] closed =>
    simp only [isWhole, Bool.and_eq_true] at whole
    obtain ⟨_, rfl⟩ := whole
    rfl
  | .object (member :: rest) closed =>
    rw [isWhole, Bool.and_eq_true] at whole
    obtain ⟨parts, rfl⟩ := whole
    have members := foldl_memberLexemes (member :: rest) parts (List.cons_ne_nil _ _) [] stack
    rw [← foldl_keyOrEnd (List.cons_ne_nil _ _), List.append_nil] at members
    rw [lexemes, List.cons_append, List.foldl_cons, List.foldl_append]
    change List.foldl advance ((memberLexemes (member :: rest)).foldl advance
      (.reading .keyOrEnd (.object [] none :: stack))) _ = _
    rw [members]
    change place (.object (member :: rest).reverse.reverse true) stack = _
    rw [List.reverse_reverse]
  | .broken => cases whole

/-- The tokens of items add these to a list in which a value is due. -/
theorem foldl_itemLexemes (items : List Json) (whole : areWhole items) (given : items ≠ [])
    (done : List Json) (stack : List Frame) :
    (itemLexemes items).foldl advance (.reading .value (.array done :: stack)) =
      .reading .separator (.array (items.reverse ++ done) :: stack) := by
  match items with
  | [] => exact absurd rfl given
  | [item] =>
    rw [areWhole, Bool.and_eq_true] at whole
    exact foldl_lexemes item whole.1 _
  | item :: next :: others =>
    rw [areWhole, Bool.and_eq_true] at whole
    rw [itemLexemes, List.foldl_append, foldl_lexemes item whole.1, List.foldl_cons]
    · change (itemLexemes (next :: others)).foldl advance
        (.reading .value (.array (item :: done) :: stack)) = _
      rw [foldl_itemLexemes (next :: others) whole.2 (List.cons_ne_nil _ _),
        List.reverse_cons (a := item), List.append_assoc, List.singleton_append]
    · nofun

/-- The tokens of members add these to an object in which a key is due. -/
theorem foldl_memberLexemes (members : List (Option String × Json))
    (whole : areWholeMembers members) (given : members ≠ [])
    (done : List (Option String × Json)) (stack : List Frame) :
    (memberLexemes members).foldl advance (.reading .key (.object done none :: stack)) =
      .reading .separator (.object (members.reverse ++ done) none :: stack) := by
  match members with
  | [] => exact absurd rfl given
  | [(key, value)] =>
    rw [areWholeMembers, Bool.and_eq_true] at whole
    exact foldl_lexemes value whole.1 _
  | (key, value) :: next :: others =>
    rw [areWholeMembers, Bool.and_eq_true] at whole
    rw [memberLexemes, List.foldl_append]
    · change List.foldl advance (value.lexemes.foldl advance
        (.reading .value (.object done (some key) :: stack))) _ = _
      rw [foldl_lexemes value whole.1, List.foldl_cons]
      change (memberLexemes (next :: others)).foldl advance
        (.reading .key (.object ((key, value) :: done) none :: stack)) = _
      rw [foldl_memberLexemes (next :: others) whole.2 (List.cons_ne_nil _ _),
        List.reverse_cons (a := (key, value)), List.append_assoc, List.singleton_append]
    · nofun

end

end Builder

/-- The text of a plain document is that document and nothing else. -/
theorem ofText_render {json : Json} (plain : json.isPlain) : ofText json.render = (json, true) := by
  have scanned := tokensFrom_renderChars json plain []
  rw [List.append_nil, tokensFrom, finish, List.append_nil] at scanned
  rw [ofText, tokens, render, String.toList_ofList, scanned,
    Builder.foldl_lexemes json (isWhole_of_isPlain json plain)]
  rfl

end PaymentChannel.Json
