import PaymentChannel.Proofs.Json.Spelling

/-! The grammar of JSON texts. A document has many texts, as blanks may stand around any of its parts
and texts and numbers are written in several ways. All of them are scanned into the tokens of the
document, and so read as that document; what follows an object is told apart from it. -/
namespace PaymentChannel.Json

def AreBlank (chars : List Char) : Prop := ∀ c ∈ chars, isBlank c

theorem AreBlank.nil : AreBlank [] := List.forall_mem_nil _

/-- The ways to write a key, with blanks around it. -/
inductive WritesKey : Option String → List Char → Prop
  | mk {key : Option String} {before chars after : List Char} (blankBefore : AreBlank before)
      (written : WritesText key chars) (blankAfter : AreBlank after) :
    WritesKey key (before ++ chars ++ after)

mutual

/-- The ways to write a document, from its first character to its last. -/
inductive Writes : Json → List Char → Prop
  | null : Writes .null ['n', 'u', 'l', 'l']
  | true : Writes (.boolean true) ['t', 'r', 'u', 'e']
  | false : Writes (.boolean false) ['f', 'a', 'l', 's', 'e']
  | number {value : Option Int} {chars : List Char} (written : WritesNumber value chars) :
    Writes (.number value) chars
  | text {value : Option String} {chars : List Char} (written : WritesText value chars) :
    Writes (.text value) chars
  | array {items : List Json} {chars : List Char} (written : WritesItems items chars) :
    Writes (.array items Bool.true) ('[' :: chars ++ [']'])
  | object {members : List (Option String × Json)} {chars : List Char}
      (written : WritesMembers members chars) :
    Writes (.object members Bool.true) (Char.ofNat 0x7b :: chars ++ [Char.ofNat 0x7d])

/-- A document with blanks around it. -/
inductive WritesElement : Json → List Char → Prop
  | mk {json : Json} {before chars after : List Char} (blankBefore : AreBlank before)
      (written : Writes json chars) (blankAfter : AreBlank after) :
    WritesElement json (before ++ chars ++ after)

inductive WritesItems : List Json → List Char → Prop
  | none {gap : List Char} (blank : AreBlank gap) : WritesItems [] gap
  | last {item : Json} {chars : List Char} (written : WritesElement item chars) :
    WritesItems [item] chars
  | more {item next : Json} {rest : List Json} {chars others : List Char}
      (written : WritesElement item chars) (later : WritesItems (next :: rest) others) :
    WritesItems (item :: next :: rest) (chars ++ ',' :: others)

inductive WritesMembers : List (Option String × Json) → List Char → Prop
  | none {gap : List Char} (blank : AreBlank gap) : WritesMembers [] gap
  | last {key : Option String} {value : Json} {keyChars chars : List Char}
      (named : WritesKey key keyChars) (written : WritesElement value chars) :
    WritesMembers [(key, value)] (keyChars ++ ':' :: chars)
  | more {key : Option String} {value : Json} {next : Option String × Json}
      {rest : List (Option String × Json)} {keyChars chars others : List Char}
      (named : WritesKey key keyChars) (written : WritesElement value chars)
      (later : WritesMembers (next :: rest) others) :
    WritesMembers ((key, value) :: next :: rest) (keyChars ++ ':' :: (chars ++ ',' :: others))

end

theorem tokensFrom_blank {gap : List Char} (blank : AreBlank gap) (rest : List Char) :
    tokensFrom .between (gap ++ rest) = tokensFrom .between rest := by
  induction gap with
  | nil => rfl
  | cons c gap ih =>
    obtain ⟨first, others⟩ := List.forall_mem_cons.mp blank
    simp only [List.cons_append, tokensFrom, step, start, first, if_true, List.nil_append, ih others]

theorem tokensFrom_comma (rest : List Char) :
    tokensFrom .between (',' :: rest) = .comma :: tokensFrom .between rest := rfl

theorem Ends.append {gap rest : List Char} (blank : AreBlank gap) (ends : Ends rest) :
    Ends (gap ++ rest) := by
  cases gap with
  | nil => exact ends
  | cons c gap =>
    have first := blank c List.mem_cons_self
    intro d same
    obtain rfl : c = d := Option.some.inj same
    simp only [isBlank, Bool.or_eq_true, beq_iff_eq] at first
    rcases first with ((rfl | rfl) | rfl) | rfl <;> decide

theorem Ends.cons {c : Char} (delimiter : c ∈ delimiters) (rest : List Char) : Ends (c :: rest) :=
  fun _ same => Option.some.inj same ▸ delimiter

theorem tokensFrom_padded {before chars after rest : List Char} (tokens : List Token)
    (blankBefore : AreBlank before) (blankAfter : AreBlank after) (ends : Ends rest)
    (scan : ∀ rest, Ends rest →
      tokensFrom .between (chars ++ rest) = tokens ++ tokensFrom .between rest) :
    tokensFrom .between (before ++ chars ++ after ++ rest) = tokens ++ tokensFrom .between rest := by
  rw [List.append_assoc, List.append_assoc, tokensFrom_blank blankBefore,
    scan _ (ends.append blankAfter), tokensFrom_blank blankAfter]

theorem WritesKey.scan {key : Option String} {chars : List Char} (written : WritesKey key chars)
    (rest : List Char) :
    tokensFrom .between (chars ++ ':' :: rest) = .text key :: .colon :: tokensFrom .between rest := by
  obtain ⟨blankBefore, written, blankAfter⟩ := written
  exact tokensFrom_padded [.text key] blankBefore blankAfter (.cons (by decide) rest)
    fun rest _ => written.scan rest

theorem itemLexemes_cons_cons (item next : Json) (rest : List Json) :
    itemLexemes (item :: next :: rest) = item.lexemes ++ .comma :: itemLexemes (next :: rest) := rfl

theorem memberLexemes_cons_cons (key : Option String) (value : Json) (next : Option String × Json)
    (rest : List (Option String × Json)) :
    memberLexemes ((key, value) :: next :: rest) =
      .text key :: .colon :: value.lexemes ++ .comma :: memberLexemes (next :: rest) := rfl

/-- An object ends itself, so that anything may come after it. -/
theorem tokensFrom_object {members : List (Option String × Json)} {chars : List Char}
    (scan : ∀ rest, Ends rest →
      tokensFrom .between (chars ++ rest) = memberLexemes members ++ tokensFrom .between rest)
    (rest : List Char) :
    tokensFrom .between (Char.ofNat 0x7b :: chars ++ [Char.ofNat 0x7d] ++ rest) =
      lexemes (.object members true) ++ tokensFrom .between rest := by
  have opening : ∀ chars, tokensFrom .between (Char.ofNat 0x7b :: chars) =
      .openBrace :: tokensFrom .between chars := fun _ => rfl
  have closing : tokensFrom .between (Char.ofNat 0x7d :: rest) =
      .closeBrace :: tokensFrom .between rest := rfl
  have inside := scan (Char.ofNat 0x7d :: rest) (.cons (by decide) rest)
  simp only [lexemes, if_true, List.cons_append, List.append_assoc, opening, List.nil_append, inside,
    closing]

mutual

/-- Every text of a document is scanned into its tokens. -/
theorem Writes.scan (json : Json) {chars : List Char} (written : Writes json chars)
    (rest : List Char) (ends : Ends rest) :
    tokensFrom .between (chars ++ rest) = json.lexemes ++ tokensFrom .between rest := by
  match json, written with
  | _, .null | _, .true | _, .false => rfl
  | _, .number written => exact written.scan ends
  | _, .text written => exact written.scan rest
  | .array items _, .array written =>
    have opening : ∀ chars, tokensFrom .between ('[' :: chars) =
        .openBracket :: tokensFrom .between chars := fun _ => rfl
    have closing : tokensFrom .between (']' :: rest) =
        .closeBracket :: tokensFrom .between rest := rfl
    have inside := WritesItems.scan items written (']' :: rest) (.cons (by decide) rest)
    simp only [lexemes, if_true, List.cons_append, List.append_assoc, opening, List.nil_append, inside,
      closing]
  | .object members _, .object written =>
    exact tokensFrom_object (fun _ => WritesMembers.scan members written _) rest

theorem WritesItems.scan (items : List Json) {chars : List Char} (written : WritesItems items chars)
    (rest : List Char) (ends : Ends rest) :
    tokensFrom .between (chars ++ rest) = itemLexemes items ++ tokensFrom .between rest := by
  match items, written with
  | [], .none blank => exact tokensFrom_blank blank rest
  | [item], .last (.mk blankBefore written blankAfter) =>
    exact tokensFrom_padded item.lexemes blankBefore blankAfter ends (Writes.scan item written)
  | item :: next :: others, .more (.mk blankBefore written blankAfter) later =>
    rw [List.append_assoc, List.cons_append,
      tokensFrom_padded _ blankBefore blankAfter (.cons (by decide) _) (Writes.scan item written),
      tokensFrom_comma, WritesItems.scan (next :: others) later rest ends, itemLexemes_cons_cons,
      List.append_assoc, List.cons_append]

theorem WritesMembers.scan (members : List (Option String × Json)) {chars : List Char}
    (written : WritesMembers members chars) (rest : List Char) (ends : Ends rest) :
    tokensFrom .between (chars ++ rest) = memberLexemes members ++ tokensFrom .between rest := by
  match members, written with
  | [], .none blank => exact tokensFrom_blank blank rest
  | [(key, value)], .last named (.mk blankBefore written blankAfter) =>
    rw [List.append_assoc, List.cons_append, named.scan,
      tokensFrom_padded _ blankBefore blankAfter ends (Writes.scan value written)]
    rfl
  | (key, value) :: next :: others, .more named (.mk blankBefore written blankAfter) later =>
    rw [List.append_assoc, List.cons_append, List.append_assoc, named.scan, List.cons_append,
      tokensFrom_padded _ blankBefore blankAfter (.cons (by decide) _) (Writes.scan value written),
      tokensFrom_comma, WritesMembers.scan (next :: others) later rest ends,
      memberLexemes_cons_cons]
    simp only [List.cons_append, List.append_assoc]

end

mutual

/-- A document that has a text is all there. -/
theorem Writes.isWhole (json : Json) {chars : List Char} (written : Writes json chars) :
    json.isWhole := by
  match json, written with
  | _, .null | _, .true | _, .false | _, .number _ | _, .text _ => rfl
  | .array items _, .array written =>
    simp only [Json.isWhole, WritesItems.areWhole items written, Bool.and_self]
  | .object members _, .object written =>
    simp only [Json.isWhole, WritesMembers.areWhole members written, Bool.and_self]

theorem WritesItems.areWhole (items : List Json) {chars : List Char}
    (written : WritesItems items chars) : Json.areWhole items := by
  match items, written with
  | [], .none _ => rfl
  | [item], .last (.mk _ written _) =>
    simp only [Json.areWhole, Writes.isWhole item written, Bool.and_self]
  | item :: next :: others, .more (.mk _ written _) later =>
    rw [Json.areWhole, Writes.isWhole item written, WritesItems.areWhole (next :: others) later,
      Bool.and_self]

theorem WritesMembers.areWhole (members : List (Option String × Json)) {chars : List Char}
    (written : WritesMembers members chars) : areWholeMembers members := by
  match members, written with
  | [], .none _ => rfl
  | [(_, value)], .last _ (.mk _ written _) =>
    simp only [areWholeMembers, Writes.isWhole value written, Bool.and_self]
  | (_, value) :: next :: others, .more _ (.mk _ written _) later =>
    rw [areWholeMembers, Writes.isWhole value written,
      WritesMembers.areWhole (next :: others) later, Bool.and_self]

end

/-! ### Texts of objects -/

/-- The text is a document with blanks before it, and then the rest. -/
inductive Begins : String → Json → List Char → Prop
  | mk {text : String} {json : Json} {before chars rest : List Char} (blank : AreBlank before)
      (written : Writes json chars) (same : text.toList = before ++ chars ++ rest) :
    Begins text json rest

instance (chars : List Char) : Decidable (AreBlank chars) :=
  List.decidableBAll (fun c => isBlank c = true) chars

/-- Whether a token has been started. -/
def Mode.isOpen : Mode → Bool
  | .between | .stopped => false
  | _ => true

theorem start_goes_on {c : Char} (notBlank : ¬ isBlank c) :
    (start c).1 ≠ [] ∨ (start c).2.isOpen := by
  unfold start
  rw [if_neg notBlank]
  split
  · exact .inl (List.cons_ne_nil _ _)
  · split
    case h_7 =>
      by_cases digit : c.isDigit
      · exact .inr (by rw [if_pos digit]; rfl)
      · exact .inl (by rw [if_neg digit]; exact List.cons_ne_nil _ _)
    all_goals exact .inr rfl

theorem step_goes_on {mode : Mode} (isOpen : mode.isOpen) (c : Char) :
    (step mode c).1 ≠ [] ∨ (step mode c).2.isOpen := by
  cases mode with
  | between | stopped => cases isOpen
  | name rest token =>
    cases rest with
    | nil => exact .inl (List.cons_ne_nil _ _)
    | cons next rest =>
      cases rest with
      | nil =>
        rw [step]
        split <;> exact .inl (List.cons_ne_nil _ _)
      | cons following rest =>
        rw [step]
        · split
          · exact .inr rfl
          · exact .inl (List.cons_ne_nil _ _)
        · exact List.cons_ne_nil _ _
  | number negative phase value =>
    rw [step]
    split
    · exact .inr rfl
    · split <;> exact .inl (List.cons_ne_nil _ _)
  | text pieces =>
    rw [step]
    split
    · exact .inl (List.cons_ne_nil _ _)
    · split
      · exact .inr rfl
      · split
        · exact .inl (List.cons_ne_nil _ _)
        · exact .inr rfl
  | escape pieces =>
    rw [step]
    split
    · exact .inr rfl
    · split
      · exact .inr rfl
      · exact .inl (List.cons_ne_nil _ _)
  | unit pieces missing value =>
    rw [step]
    split
    · exact .inl (List.cons_ne_nil _ _)
    · cases missing <;> exact .inr rfl

/-- What has been started ends in some token. -/
theorem tokensFrom_open {mode : Mode} (isOpen : mode.isOpen) (rest : List Char) :
    tokensFrom mode rest ≠ [] := by
  induction rest generalizing mode with
  | nil =>
    cases mode with
    | between | stopped => cases isOpen
    | number negative phase value =>
      simp only [tokensFrom, finish]
      split <;> exact List.cons_ne_nil _ _
    | _ => exact List.cons_ne_nil _ _
  | cons c rest ih =>
    rw [tokensFrom]
    intro empty
    obtain ⟨first, others⟩ := List.append_eq_nil_iff.mp empty
    rcases step_goes_on isOpen c with given | stillOpen
    · exact given first
    · exact ih stillOpen others

/-- Something is scanned wherever there is more than blanks. -/
theorem tokensFrom_ne_nil {rest : List Char} (more : ¬ AreBlank rest) :
    tokensFrom .between rest ≠ [] := by
  induction rest with
  | nil => exact absurd (List.forall_mem_nil _) more
  | cons c rest ih =>
    intro empty
    obtain ⟨first, others⟩ := List.append_eq_nil_iff.mp empty
    change (start c).1 = [] at first
    change tokensFrom (start c).2 rest = [] at others
    by_cases blank : isBlank c
    · refine ih (fun blanks => more (List.forall_mem_cons.mpr ⟨blank, blanks⟩)) ?_
      simpa [start, blank] using others
    · rcases start_goes_on blank with given | isOpen
      · exact given first
      · exact tokensFrom_open isOpen rest others

theorem Builder.foldl_advance_finished (json : Json) {tokens : List Token} (given : tokens ≠ []) :
    tokens.foldl advance (.finished json) = .stopped json := by
  have stays (tokens : List Token) : tokens.foldl advance (.stopped json) = .stopped json := by
    induction tokens with
    | nil => rfl
    | cons token rest ih => exact ih
  cases tokens with
  | nil => exact absurd rfl given
  | cons token rest => exact stays rest

/-- An object is known where it ends, so that anything may follow it. -/
theorem ofText_of_begins {text : String} {members : List (Option String × Json)} {closed : Bool}
    {rest : List Char} (begins : Begins text (.object members closed) rest) :
    ofText text = (.object members closed, decide (AreBlank rest)) := by
  obtain ⟨blank, written, same⟩ := begins
  have whole := Writes.isWhole _ written
  cases written with
  | object inside =>
    have scanned : tokens text = lexemes (.object members true) ++ tokensFrom .between rest := by
      rw [tokens, same, List.append_assoc, tokensFrom_blank blank,
        tokensFrom_object (fun _ => WritesMembers.scan members inside _)]
    rw [ofText, scanned, List.foldl_append, Builder.foldl_lexemes _ whole]
    by_cases blanks : AreBlank rest
    · have nothing := tokensFrom_blank blanks []
      rw [List.append_nil] at nothing
      rw [nothing, decide_eq_true blanks]
      rfl
    · change Builder.result ((tokensFrom .between rest).foldl Builder.advance (.finished _)) = _
      rw [Builder.foldl_advance_finished _ (tokensFrom_ne_nil blanks), decide_eq_false blanks]
      rfl

/-! ### The text that is written -/

theorem WritesElement.bare {json : Json} {chars : List Char} (written : Writes json chars) :
    WritesElement json chars := by
  have element := WritesElement.mk .nil written .nil
  rwa [List.nil_append, List.append_nil] at element

theorem WritesKey.bare (key : Option String) : WritesKey key (renderKey key) := by
  have written := WritesKey.mk .nil (writesText_renderKey key) .nil
  rwa [List.nil_append, List.append_nil] at written

theorem WritesMembers.render_cons {key : Option String} {value : Json}
    (written : Writes value value.renderChars) {next : Option String × Json}
    {rest : List (Option String × Json)}
    (later : WritesMembers (next :: rest) (renderMembers (next :: rest))) :
    WritesMembers ((key, value) :: next :: rest) (renderMembers ((key, value) :: next :: rest)) := by
  have more := WritesMembers.more (.bare key) (.bare written) later
  simpa only [renderMembers, List.append_assoc, List.cons_append] using more

mutual

/-- The text that is written of a plain document is one of its texts. -/
theorem writes_renderChars (json : Json) (plain : json.isPlain) : Writes json json.renderChars := by
  match json with
  | .null => exact .null
  | .boolean true => exact .true
  | .boolean false => exact .false
  | .text (some s) => exact .text (writesText_renderString s)
  | .array items closed =>
    simp only [isPlain, Bool.and_eq_true] at plain
    obtain ⟨parts, rfl⟩ := plain
    exact .array (writesItems_renderItems items parts)
  | .object members closed =>
    simp only [isPlain, Bool.and_eq_true] at plain
    obtain ⟨parts, rfl⟩ := plain
    exact .object (writesMembers_renderMembers members parts)
  | .text none | .number _ | .broken => cases plain

theorem writesItems_renderItems (items : List Json) (plain : arePlain items) :
    WritesItems items (renderItems items) := by
  match items with
  | [] => exact .none .nil
  | [item] =>
    rw [arePlain, Bool.and_eq_true] at plain
    exact .last (.bare (writes_renderChars item plain.1))
  | item :: next :: others =>
    rw [arePlain, Bool.and_eq_true] at plain
    exact .more (.bare (writes_renderChars item plain.1))
      (writesItems_renderItems (next :: others) plain.2)

theorem writesMembers_renderMembers (members : List (Option String × Json))
    (plain : arePlainMembers members) : WritesMembers members (renderMembers members) := by
  match members with
  | [] => exact .none .nil
  | [(some key, value)] =>
    rw [arePlainMembers, Bool.and_eq_true] at plain
    exact .last (.bare (some key))
      (.bare (writes_renderChars value (Bool.and_eq_true_iff.mp plain.1).2))
  | (some key, value) :: next :: others =>
    rw [arePlainMembers, Bool.and_eq_true] at plain
    exact .render_cons (writes_renderChars value (Bool.and_eq_true_iff.mp plain.1).2)
      (writesMembers_renderMembers (next :: others) plain.2)
  | (none, _) :: _ => cases plain

end

end PaymentChannel.Json
