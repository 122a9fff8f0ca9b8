import PaymentChannel.Proofs.Json.Document

/-! The ways to write a text and a number in JSON, stated apart from the machine that scans them. A
character of a text stands there itself, by an escape, or as units of 16 bits; a number has a sign, an
integer part, a fraction and an exponent. Each way is scanned into the one token that it means; only a
number has to be followed by what cannot belong to it. -/
namespace PaymentChannel.Json

theorem toNat_of_isDigit {c : Char} (digit : c.isDigit) : 48 ≤ c.toNat ∧ c.toNat ≤ 57 := by
  simp only [Char.isDigit, Bool.and_eq_true, decide_eq_true_eq] at digit
  exact digit

/-! ### Texts -/

namespace Piece

/-- The ways to write one piece of a text. -/
inductive Writes : Piece → List Char → Prop
  | plain {c : Char} (notQuote : c ≠ '"') (notBackslash : c ≠ '\\') (printable : 0x20 ≤ c.toNat) :
    Writes (.char c) [c]
  | escape {mark c : Char} (stands : escaped? mark = some c) : Writes (.char c) ['\\', mark]
  | unit {a b c d : Char} {w x y z : Nat} (first : hexValue? a = some w)
      (second : hexValue? b = some x) (third : hexValue? c = some y)
      (fourth : hexValue? d = some z) :
    Writes (.unit (0x1000 * w + 0x100 * x + 0x10 * y + z)) ['\\', 'u', a, b, c, d]

inductive WritesAll : List Piece → List Char → Prop
  | nil : WritesAll [] []
  | cons {piece : Piece} {pieces : List Piece} {first rest : List Char} (head : Writes piece first)
      (tail : WritesAll pieces rest) : WritesAll (piece :: pieces) (first ++ rest)

/-- A character as 16-bit units. -/
def utf16 (c : Char) : List Piece :=
  if c.toNat < 0x10000 then [.unit c.toNat]
  else [.unit (0xd800 + (c.toNat - 0x10000) / 0x400), .unit (0xdc00 + (c.toNat - 0x10000) % 0x400)]

/-- What the pieces of a text mean: each character stands there itself or in units. -/
inductive Means : List Piece → List Char → Prop
  | nil : Means [] []
  | char {pieces : List Piece} {chars : List Char} (rest : Means pieces chars) (c : Char) :
    Means (.char c :: pieces) (c :: chars)
  | units {pieces : List Piece} {chars : List Char} (rest : Means pieces chars) (c : Char) :
    Means (utf16 c ++ pieces) (c :: chars)

theorem join_utf16 (c : Char) (rest : List Piece) :
    join (utf16 c ++ rest) = (join rest).map (c :: ·) := by
  have valid : c.toNat < 0xd800 ∨ (0xdfff < c.toNat ∧ c.toNat < 0x110000) := c.valid
  rw [utf16]
  split
  · have single : ¬ (0xd800 ≤ c.toNat ∧ c.toNat ≤ 0xdfff) := by omega
    exact join_cons (by rw [join_unit single, Char.ofNat_toNat]) rest
  · have high : 0xd800 ≤ 0xd800 + (c.toNat - 0x10000) / 0x400 ∧
        0xd800 + (c.toNat - 0x10000) / 0x400 ≤ 0xdbff := by omega
    have low : 0xdc00 ≤ 0xdc00 + (c.toNat - 0x10000) % 0x400 ∧
        0xdc00 + (c.toNat - 0x10000) % 0x400 ≤ 0xdfff := by omega
    have number : 0x10000 + (0xd800 + (c.toNat - 0x10000) / 0x400 - 0xd800) * 0x400 +
        (0xdc00 + (c.toNat - 0x10000) % 0x400 - 0xdc00) = c.toNat := by omega
    simp only [List.cons_append, List.nil_append, join, if_pos high, if_pos low, number,
      Char.ofNat_toNat]

/-- A unit has 16 bits. -/
def IsSmall : Piece → Prop
  | .char _ => True
  | .unit value => value < 0x10000

theorem toNat_ofNat {n : Nat} (valid : n < 0xd800 ∨ (0xdfff < n ∧ n < 0x110000)) :
    (Char.ofNat n).toNat = n := by
  rw [Char.ofNat, dif_pos (show n.isValidChar from valid)]
  rfl

theorem utf16_single {value : Nat} (small : value < 0x10000)
    (single : ¬ (0xd800 ≤ value ∧ value ≤ 0xdfff)) : utf16 (Char.ofNat value) = [.unit value] := by
  rw [utf16, toNat_ofNat (by omega), if_pos small]

theorem utf16_pair {high low : Nat} (isHigh : 0xd800 ≤ high ∧ high ≤ 0xdbff)
    (isLow : 0xdc00 ≤ low ∧ low ≤ 0xdfff) :
    utf16 (Char.ofNat (0x10000 + (high - 0xd800) * 0x400 + (low - 0xdc00))) =
      [.unit high, .unit low] := by
  have first : 0xd800 + (0x10000 + (high - 0xd800) * 0x400 + (low - 0xdc00) - 0x10000) / 0x400 =
      high := by omega
  have second : 0xdc00 + (0x10000 + (high - 0xd800) * 0x400 + (low - 0xdc00) - 0x10000) % 0x400 =
      low := by omega
  rw [utf16, toNat_ofNat (by omega), if_neg (by omega), first, second]

theorem means_of_join {pieces : List Piece} (small : ∀ piece ∈ pieces, piece.IsSmall)
    {chars : List Char} (joined : join pieces = some chars) : Means pieces chars := by
  induction pieces using join.induct generalizing chars with
  | case1 =>
    cases joined
    exact .nil
  | case2 c rest ih =>
    simp only [join, Option.map_eq_some_iff] at joined
    obtain ⟨others, joined, rfl⟩ := joined
    exact (ih (List.forall_mem_cons.mp small).2 joined).char c
  | case3 high low rest isHigh isLow ih =>
    simp only [join, if_pos isHigh, if_pos isLow, Option.map_eq_some_iff] at joined
    obtain ⟨others, joined, rfl⟩ := joined
    have rest := ih (List.forall_mem_cons.mp (List.forall_mem_cons.mp small).2).2 joined
    have means := rest.units (Char.ofNat (0x10000 + (high - 0xd800) * 0x400 + (low - 0xdc00)))
    rwa [utf16_pair isHigh isLow] at means
  | case4 high low rest isHigh notLow => simp [join, isHigh, notLow] at joined
  | case5 high low rest notHigh isLow => simp [join, notHigh, isLow] at joined
  | case6 high low rest notHigh notLow ih =>
    simp only [join, if_neg notHigh, if_neg notLow, Option.map_eq_some_iff] at joined
    obtain ⟨others, joined, rfl⟩ := joined
    obtain ⟨smallHigh, smallRest⟩ := List.forall_mem_cons.mp small
    have means := (ih smallRest joined).units (Char.ofNat high)
    rwa [utf16_single smallHigh (by omega)] at means
  | case7 value rest alone surrogate =>
    rw [join, if_pos surrogate] at joined
    · cases joined
    · exact alone
  | case8 value rest alone single ih =>
    rw [join, if_neg single, Option.map_eq_some_iff] at joined
    · obtain ⟨others, joined, rfl⟩ := joined
      obtain ⟨smallValue, smallRest⟩ := List.forall_mem_cons.mp small
      have means := (ih smallRest joined).units (Char.ofNat value)
      rwa [utf16_single smallValue single] at means
    · exact alone

theorem join_of_means {pieces : List Piece} {chars : List Char} (means : Means pieces chars) :
    join pieces = some chars := by
  induction means with
  | nil => rfl
  | char _ c ih => rw [join, ih, Option.map_some]
  | units _ c ih => rw [join_utf16, ih, Option.map_some]

theorem hexValue?_lt {c : Char} {n : Nat} (value : hexValue? c = some n) : n < 16 := by
  rw [hexValue?] at value
  split_ifs at value with digit lower upper
  · simp only [Option.some.injEq, digitValue] at value
    simp only [Char.isDigit, Bool.and_eq_true, decide_eq_true_eq] at digit
    have least : 48 ≤ c.toNat ∧ c.toNat ≤ 57 := digit
    have zero : '0'.toNat = 48 := rfl
    omega
  · cases value
    have bounds : 97 ≤ c.toNat ∧ c.toNat ≤ 102 := lower
    omega
  · cases value
    have bounds : 65 ≤ c.toNat ∧ c.toNat ≤ 70 := upper
    omega

theorem Writes.isSmall {piece : Piece} {chars : List Char} (written : Writes piece chars) :
    piece.IsSmall := by
  cases written with
  | plain | escape => trivial
  | unit first second third fourth =>
    have bounds := And.intro (hexValue?_lt first) (hexValue?_lt second)
    have others := And.intro (hexValue?_lt third) (hexValue?_lt fourth)
    simp only [IsSmall]
    omega

theorem Writes.scan {piece : Piece} {chars : List Char} (written : Writes piece chars)
    (before : List Piece) (rest : List Char) :
    tokensFrom (.text before) (chars ++ rest) = tokensFrom (.text (piece :: before)) rest := by
  cases written with
  | plain notQuote notBackslash printable =>
    simp only [List.singleton_append, tokensFrom, step, if_neg notQuote, if_neg notBackslash,
      if_neg (Nat.not_lt.mpr printable), List.nil_append]
  | @escape mark c stands =>
    have notUnit : mark ≠ 'u' := by
      rintro rfl
      cases stands
    have opening : ∀ chars, tokensFrom (.text before) ('\\' :: chars) =
      tokensFrom (.escape before) chars := fun _ => rfl
    simp only [List.cons_append, List.nil_append, opening, tokensFrom, step, if_neg notUnit, stands]
  | @unit a b c d w x y z first second third fourth =>
    have opening : ∀ chars, tokensFrom (.text before) ('\\' :: 'u' :: chars) =
      tokensFrom (.unit before 3 0) chars := fun _ => rfl
    have value : 16 * (16 * (16 * (16 * 0 + w) + x) + y) + z =
      0x1000 * w + 0x100 * x + 0x10 * y + z := by omega
    simp only [List.cons_append, List.nil_append, opening, tokensFrom, step, first, second, third,
      fourth, value]

theorem WritesAll.isSmall {pieces : List Piece} {chars : List Char}
    (written : WritesAll pieces chars) : ∀ piece ∈ pieces, piece.IsSmall := by
  induction written with
  | nil => exact List.forall_mem_nil _
  | cons head _ ih => exact List.forall_mem_cons.mpr ⟨head.isSmall, ih⟩

theorem WritesAll.scan {pieces : List Piece} {chars : List Char} (written : WritesAll pieces chars)
    (before : List Piece) (rest : List Char) :
    tokensFrom (.text before) (chars ++ rest) =
      tokensFrom (.text (pieces.reverse ++ before)) rest := by
  induction written generalizing before with
  | nil => rfl
  | cons head _ ih =>
    rw [List.append_assoc, head.scan, ih, List.reverse_cons, List.append_assoc, List.singleton_append]

end Piece

/-- The ways to write a text between quotes; one with units that stand for no character has no
value. -/
inductive WritesText : Option String → List Char → Prop
  | quoted {value : Option String} {pieces : List Piece} {chars : List Char}
      (written : Piece.WritesAll pieces chars)
      (means : ∀ s, value = some s ↔ Piece.Means pieces s.toList) :
    WritesText value ('"' :: chars ++ ['"'])

theorem WritesText.scan {value : Option String} {chars : List Char} (written : WritesText value chars)
    (rest : List Char) :
    tokensFrom .between (chars ++ rest) = .text value :: tokensFrom .between rest := by
  obtain ⟨written, means⟩ := written
  rename_i pieces chars
  have joined : (Piece.join pieces).map String.ofList = value := by
    cases joined : Piece.join pieces with
    | none =>
      cases value with
      | none => rfl
      | some s =>
        rw [Piece.join_of_means ((means s).mp rfl)] at joined
        cases joined
    | some chars =>
      have same := (means (String.ofList chars)).mpr
        (by simpa using Piece.means_of_join written.isSmall joined)
      rw [same]
      rfl
  have opening : ∀ chars, tokensFrom .between ('"' :: chars) = tokensFrom (.text []) chars :=
    fun _ => rfl
  have closing : ∀ before, tokensFrom (.text before) ('"' :: rest) =
      textToken before :: tokensFrom .between rest := fun _ => rfl
  rw [List.cons_append, List.cons_append, opening, List.append_assoc, written.scan,
    List.singleton_append, closing, textToken, List.append_nil, List.reverse_reverse, joined]

/-- What stands for a character in a written text is one way to write it. -/
theorem Piece.exists_writes_escapeText (c : Char) : ∃ piece, Writes piece (escapeText c) ∧
    ∀ {pieces : List Piece} {chars : List Char}, Means pieces chars →
      Means (piece :: pieces) (c :: chars) := by
  rw [escapeText]
  split_ifs with mark newline return_ tab back feed control
  · have stands : escaped? c = some c := by rcases mark with rfl | rfl <;> rfl
    exact ⟨.char c, .escape stands, fun means => means.char c⟩
  · exact ⟨.char c, .escape (newline ▸ rfl), fun means => means.char c⟩
  · exact ⟨.char c, .escape (return_ ▸ rfl), fun means => means.char c⟩
  · exact ⟨.char c, .escape (tab ▸ rfl), fun means => means.char c⟩
  · exact ⟨.char c, .escape (back ▸ rfl), fun means => means.char c⟩
  · exact ⟨.char c, .escape (feed ▸ rfl), fun means => means.char c⟩
  · have unit : utf16 c = [.unit c.toNat] := if_pos (by omega)
    have digits := Writes.unit (hexValue?_digit 0 (by decide)) (hexValue?_digit 0 (by decide))
      (hexValue?_digit (c.toNat / 16) (by omega)) (hexValue?_digit (c.toNat % 16) (by omega))
    have value : 0x1000 * 0 + 0x100 * 0 + 0x10 * (c.toNat / 16) + c.toNat % 16 = c.toNat := by omega
    rw [value] at digits
    refine ⟨.unit c.toNat, digits, fun means => ?_⟩
    have units := means.units c
    rwa [unit] at units
  · obtain ⟨notQuote, notBackslash⟩ := not_or.mp mark
    exact ⟨.char c, .plain notQuote notBackslash (Nat.not_lt.mp control), fun means => means.char c⟩

theorem Piece.exists_writesAll (chars : List Char) :
    ∃ pieces, WritesAll pieces (chars.flatMap escapeText) ∧ Means pieces chars := by
  induction chars with
  | nil => exact ⟨[], .nil, .nil⟩
  | cons c chars ih =>
    obtain ⟨piece, head, first⟩ := exists_writes_escapeText c
    obtain ⟨pieces, tail, means⟩ := ih
    exact ⟨piece :: pieces, .cons head tail, first means⟩

theorem writesText_renderString (s : String) : WritesText (some s) (renderString s) := by
  obtain ⟨pieces, written, means⟩ := Piece.exists_writesAll s.toList
  refine .quoted written fun other => ⟨fun same => Option.some.inj same ▸ means, fun others => ?_⟩
  have same := (Piece.join_of_means means).symm.trans (Piece.join_of_means others)
  rw [String.toList_inj.mp (Option.some.inj same)]

/-- Half of a surrogate pair stands for no character, so that the text has no value. -/
theorem writesText_renderKey_none : WritesText none (renderKey none) := by
  have digits : Piece.Writes (.unit 0xd800) ['\\', 'u', 'd', '8', '0', '0'] :=
    @Piece.Writes.unit 'd' '8' '0' '0' 13 8 0 0 rfl rfl rfl rfl
  refine .quoted (.cons digits .nil) fun s => ⟨nofun, fun means => ?_⟩
  cases Piece.join_of_means means

theorem writesText_renderKey : (key : Option String) → WritesText key (renderKey key)
  | some s => writesText_renderString s
  | none => writesText_renderKey_none

/-! ### Numbers -/

def natOf (digits : List Char) : Nat := digits.foldl (fun n c => 10 * n + digitValue c) 0

/-- A natural number with no zeros in front. -/
inductive WritesNatural : Nat → List Char → Prop
  | zero : WritesNatural 0 ['0']
  | positive {first : Char} {rest : List Char} (notZero : first ≠ '0') (digit : first.isDigit)
      (digits : ∀ c ∈ rest, c.isDigit) : WritesNatural (natOf (first :: rest)) (first :: rest)

inductive IsFraction : List Char → Prop
  | absent : IsFraction []
  | point {digits : List Char} (given : digits ≠ []) (are : ∀ c ∈ digits, c.isDigit) :
    IsFraction ('.' :: digits)

inductive IsExponent : List Char → Prop
  | absent : IsExponent []
  | mark {mark : Char} {sign digits : List Char} (isMark : mark = 'e' ∨ mark = 'E')
      (isSign : sign = [] ∨ sign = ['+'] ∨ sign = ['-']) (given : digits ≠ [])
      (are : ∀ c ∈ digits, c.isDigit) : IsExponent (mark :: sign ++ digits)

/-- The ways to write a number. It is an integer where it has neither a fraction nor an exponent and
is not a zero with a minus sign. -/
inductive WritesNumber : Option Int → List Char → Prop
  | mk {n : Nat} {negative : Bool} {whole fraction exponent : List Char}
      (isWhole : WritesNatural n whole) (isFraction : IsFraction fraction)
      (isExponent : IsExponent exponent) :
    WritesNumber
      (if fraction = [] ∧ exponent = [] ∧ ¬ (negative ∧ n = 0) then
        some (if negative then -(n : Int) else n) else none)
      ((if negative then ['-'] else []) ++ whole ++ fraction ++ exponent)

/-- The characters that end a number. -/
def delimiters : List Char := [' ', '\n', '\t', '\r', ',', ':', ']', Char.ofNat 0x7d]

/-- Nothing comes next that could belong to a number. -/
def Ends (rest : List Char) : Prop := ∀ c ∈ rest.head?, c ∈ delimiters

theorem NumberPhase.next?_delimiter {phase : NumberPhase} (complete : phase.isComplete) :
    ∀ c ∈ delimiters, phase.next? c = none := by
  simp only [delimiters, List.forall_mem_cons]
  cases phase with
  | zero | integer | fraction | exponent =>
    exact ⟨rfl, rfl, rfl, rfl, rfl, rfl, rfl, rfl, List.forall_mem_nil _⟩
  | _ => cases complete

theorem tokensFrom_of_ends {phase : NumberPhase} (complete : phase.isComplete) (negative : Bool)
    (value : Nat) {rest : List Char} (ends : Ends rest) :
    tokensFrom (.number negative phase value) rest =
      numberToken negative phase value :: tokensFrom .between rest := by
  cases rest with
  | nil => simp only [tokensFrom, finish, complete, if_true]
  | cons c rest =>
    have stops := NumberPhase.next?_delimiter complete c (ends c rfl)
    simp only [tokensFrom, step, stops, complete, if_true, List.cons_append]

/-- Digits of the integer part count. -/
theorem tokensFrom_integer {digits : List Char} (are : ∀ c ∈ digits, c.isDigit) (negative : Bool)
    (value : Nat) (rest : List Char) :
    tokensFrom (.number negative .integer value) (digits ++ rest) =
      tokensFrom (.number negative .integer
        (digits.foldl (fun n c => 10 * n + digitValue c) value)) rest := by
  induction digits generalizing value with
  | nil => rfl
  | cons c digits ih =>
    obtain ⟨digit, others⟩ := List.forall_mem_cons.mp are
    have goes : NumberPhase.next? .integer c = some .integer := if_pos digit
    simp only [List.cons_append, tokensFrom, step, goes, NumberPhase.isInteger, if_true,
      List.nil_append, ih others, List.foldl_cons]

/-- Other digits lead on to a phase in which they are passed over. -/
theorem tokensFrom_digits (phase loop : NumberPhase) (counts : loop.isInteger = false)
    (enters : ∀ c : Char, c.isDigit → phase.next? c = some loop)
    (stays : ∀ c : Char, c.isDigit → loop.next? c = some loop) {digits : List Char}
    (given : digits ≠ []) (are : ∀ c ∈ digits, c.isDigit) (negative : Bool) (value : Nat)
    (rest : List Char) :
    tokensFrom (.number negative phase value) (digits ++ rest) =
      tokensFrom (.number negative loop value) rest := by
  induction digits generalizing phase with
  | nil => exact absurd rfl given
  | cons c digits ih =>
    obtain ⟨digit, others⟩ := List.forall_mem_cons.mp are
    have first : tokensFrom (.number negative phase value) (c :: digits ++ rest) =
        tokensFrom (.number negative loop value) (digits ++ rest) := by
      simp only [List.cons_append, tokensFrom, step, enters c digit, counts, Bool.false_eq_true,
        if_false, List.nil_append]
    rw [first]
    cases digits with
    | nil => rfl
    | cons next more => exact ih loop stays (List.cons_ne_nil _ _) others

/-- An exponent takes a number out of the integers. -/
theorem IsExponent.scan {exponent : List Char} (isExponent : IsExponent exponent)
    {phase : NumberPhase} (complete : phase.isComplete)
    (marks : phase.next? 'e' = some .mark ∧ phase.next? 'E' = some .mark) (negative : Bool)
    (value : Nat) {rest : List Char} (ends : Ends rest) :
    tokensFrom (.number negative phase value) (exponent ++ rest) =
      (if exponent = [] then numberToken negative phase value else .number none) ::
        tokensFrom .between rest := by
  cases isExponent with
  | absent => exact tokensFrom_of_ends complete negative value ends
  | @mark mark sign digits isMark isSign given are =>
    have marked (tail : List Char) : tokensFrom (.number negative phase value) (mark :: tail) =
        tokensFrom (.number negative .mark value) tail := by
      rcases isMark with rfl | rfl
      · simp only [tokensFrom, step, marks.1]
        rfl
      · simp only [tokensFrom, step, marks.2]
        rfl
    have digit (c : Char) (is : c.isDigit) : NumberPhase.next? .exponent c = some .exponent :=
      if_pos is
    have signed : tokensFrom (.number negative .mark value) (sign ++ (digits ++ rest)) =
        tokensFrom (.number negative .exponent value) rest := by
      rcases isSign with rfl | rfl | rfl
      · exact tokensFrom_digits .mark .exponent rfl (fun _ is => if_pos is) digit given are negative
          value rest
      · exact tokensFrom_digits .markSign .exponent rfl digit digit given are negative value rest
      · exact tokensFrom_digits .markSign .exponent rfl digit digit given are negative value rest
    rw [if_neg (by simp), List.cons_append, List.cons_append, List.append_assoc, marked, signed,
      tokensFrom_of_ends rfl negative value ends]
    rfl

/-- What comes after the integer part. -/
theorem tokensFrom_tail {fraction exponent : List Char} (isFraction : IsFraction fraction)
    (isExponent : IsExponent exponent) {phase : NumberPhase}
    (whole : phase = .zero ∨ phase = .integer) (negative : Bool) (value : Nat) {rest : List Char}
    (ends : Ends rest) :
    tokensFrom (.number negative phase value) (fraction ++ exponent ++ rest) =
      (if fraction = [] ∧ exponent = [] then numberToken negative phase value else .number none) ::
        tokensFrom .between rest := by
  have complete : phase.isComplete := by rcases whole with rfl | rfl <;> rfl
  cases isFraction with
  | absent =>
    have marks : phase.next? 'e' = some .mark ∧ phase.next? 'E' = some .mark := by
      rcases whole with rfl | rfl <;> decide
    simpa using isExponent.scan complete marks negative value ends
  | @point digits given are =>
    have pointed (tail : List Char) : tokensFrom (.number negative phase value) ('.' :: tail) =
        tokensFrom (.number negative .point value) tail := by
      rcases whole with rfl | rfl <;> rfl
    rw [if_neg fun both => List.cons_ne_nil _ _ both.1, List.append_assoc, List.cons_append, pointed,
      tokensFrom_digits .point .fraction rfl (fun _ is => if_pos is)
        (fun _ is => if_pos is) given are, isExponent.scan rfl (by decide) negative value ends]
    split <;> rfl

theorem start_digit {c : Char} (notZero : c ≠ '0') (digit : c.isDigit) :
    start c = ([], .number false .integer (digitValue c)) := by
  have bounds : 48 ≤ c.toNat ∧ c.toNat ≤ 57 := toNat_of_isDigit digit
  have other {d : Char} (not : d.isDigit = false) : c ≠ d := by
    rintro rfl
    rw [not] at digit
    cases digit
  have notBlank : isBlank c = false := by
    simp [isBlank, other (d := ' ') rfl, other (d := '\n') rfl, other (d := '\t') rfl,
      other (d := '\r') rfl]
  have noMark : mark? c = none := by
    rw [mark?, if_neg (by omega), if_neg (by omega), if_neg (other rfl), if_neg (other rfl),
      if_neg (other rfl), if_neg (other rfl)]
  simp only [start, notBlank, noMark, Bool.false_eq_true, if_false]
  split
  case h_6 => exact absurd rfl notZero
  case h_7 => exact if_pos digit
  all_goals exact absurd rfl (other rfl)

theorem WritesNatural.scan {n : Nat} {chars : List Char} (written : WritesNatural n chars)
    (negative : Bool) : ∃ phase, (phase = .zero ∨ phase = .integer) ∧ ∀ rest,
      tokensFrom (if negative then .number true .sign 0 else .between) (chars ++ rest) =
        tokensFrom (.number negative phase n) rest := by
  cases written with
  | zero => exact ⟨.zero, .inl rfl, fun rest => by cases negative <;> rfl⟩
  | @positive first digits notZero digit are =>
    refine ⟨.integer, .inr rfl, fun rest => ?_⟩
    have begun (rest : List Char) :
        tokensFrom (if negative then .number true .sign 0 else .between) (first :: rest) =
          tokensFrom (.number negative .integer (digitValue first)) rest := by
      cases negative with
      | false => simp [tokensFrom, step, start_digit notZero digit]
      | true => simp [tokensFrom, step, NumberPhase.next?, notZero, digit, NumberPhase.isInteger]
    rw [List.cons_append, begun, tokensFrom_integer are, natOf, List.foldl_cons, Nat.mul_zero,
      Nat.zero_add]

theorem WritesNumber.scan {value : Option Int} {chars : List Char} (written : WritesNumber value chars)
    {rest : List Char} (ends : Ends rest) :
    tokensFrom .between (chars ++ rest) = .number value :: tokensFrom .between rest := by
  obtain ⟨isWhole, isFraction, isExponent⟩ := written
  rename_i n negative whole fraction exponent
  obtain ⟨phase, integer, scanned⟩ := isWhole.scan negative
  have signed (tail : List Char) :
      tokensFrom .between ((if negative then ['-'] else []) ++ tail) =
        tokensFrom (if negative then .number true .sign 0 else .between) tail := by
    cases negative <;> rfl
  rw [List.append_assoc, List.append_assoc, List.append_assoc, signed, scanned, ← List.append_assoc,
    tokensFrom_tail isFraction isExponent integer negative n ends]
  congr 1
  have integral : phase.isInteger = true := by rcases integer with rfl | rfl <;> rfl
  by_cases bare : fraction = [] ∧ exponent = []
  · by_cases minusZero : negative = true ∧ n = 0
    · simp [numberToken, integral, bare, minusZero]
    · have plain : (negative && n == 0) = false := by simpa using minusZero
      simp [numberToken, integral, bare, plain, minusZero]
  · simp only [bare, if_false, ← and_assoc, false_and]

end PaymentChannel.Json
