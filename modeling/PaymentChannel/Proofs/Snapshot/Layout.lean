import PaymentChannel.Proofs.Json.Grammar
import PaymentChannel.Proofs.Json.Layout
import PaymentChannel.Proofs.Snapshot.Text
import PaymentChannel.Proofs.Transaction.Written

/-! Stored text that was not written by this program. What counts are the keys: each of them has to be
there once, in the snapshot and in every record of a commit, while their order, members of other names
and the way the text is set out do not matter. Refused in any layout are transactions that cannot be
read, and keys that have no value. -/
namespace PaymentChannel
open Json (AreBlank Begins ReadError Reader)

namespace Channel.Commit

/-- An object for the commit that lacks the omitted fields. -/
def IsLayout (commit : Commit) (omitted : List schema.Field) : Json → Prop :=
  schema.IsLayout commit.written omitted

/-- Objects for commits, each with all of its fields. -/
abbrev AreLayouts : List Commit → List Json → Prop :=
  List.Forall₂ fun commit item => commit.IsLayout [] item

/-- Objects for commits, one of which lacks a field. -/
inductive LackOne (field : schema.Field) : List Commit → List Json → Prop
  | here {commit : Commit} {item : Json} {commits : List Commit} {items : List Json}
      (lacks : commit.IsLayout [field] item)
      (others : AreLayouts commits items) :
    LackOne field (commit :: commits) (item :: items)
  | later {commit : Commit} {item : Json} {commits : List Commit} {items : List Json}
      (first : commit.IsLayout [] item) (others : LackOne field commits items) :
    LackOne field (commit :: commits) (item :: items)

/-- The objects that are written of commits are among them. -/
theorem areLayouts_toJson (commits : List Commit) :
    AreLayouts commits (commits.map (·.toJson)) := by
  refine List.forall₂_map_right_iff.mpr (List.forall₂_same.mpr fun commit _ => ?_)
  rw [toJson_eq]
  exact .record (List.Perm.refl _)

theorem read_layout {commit : Commit} (readable : commit.transaction.IsReadable) {item : Json}
    (layout : commit.IsLayout [] item) : read item = .ok commit := by
  rw [read, layout.readValues_ok field?_name (by decide) (read_written readable)]
  rfl

theorem read_lacking {commit : Commit} (readable : commit.transaction.IsReadable) {item : Json}
    {field : schema.Field} (lacks : commit.IsLayout [field] item) :
    read item = .error (.missingField (schema.name field)) := by
  rw [read, lacks.readValues_missing field?_name (by decide) fun field _ =>
    read_written readable field]
  rfl

theorem list_read_layout {commits : List Commit}
    (readable : ∀ commit ∈ commits, commit.transaction.IsReadable) {items : List Json}
    (layouts : AreLayouts commits items) : Reader.list read (.list items) = .ok commits := by
  have each : List.Forall₂ (fun item commit => read item = .ok commit) items commits := by
    induction layouts with
    | nil => exact .nil
    | cons first _ ih =>
      rw [List.forall_mem_cons] at readable
      exact .cons (read_layout readable.1 first) (ih readable.2)
  simp only [Reader.list, Json.list, Reader.mapM_eq_ok_iff.mpr each, bind, Except.bind, if_true]
  rfl

theorem list_read_lacking {commits : List Commit}
    (readable : ∀ commit ∈ commits, commit.transaction.IsReadable) {items : List Json}
    {field : schema.Field} (lack : LackOne field commits items) :
    Reader.list read (.list items) = .error (.missingField (schema.name field)) := by
  have failed : items.mapM read = .error (.missingField (schema.name field)) := by
    induction lack with
    | here lacks _ =>
      rw [List.forall_mem_cons] at readable
      rw [List.mapM_cons, read_lacking readable.1 lacks]
      rfl
    | later first _ ih =>
      rw [List.forall_mem_cons] at readable
      rw [List.mapM_cons, read_layout readable.1 first, ih readable.2]
      rfl
  simp only [Reader.list, Json.list, failed, bind, Except.bind]

end Channel.Commit

namespace Snapshot
open Channel (Commit)

/-- The document of each field, with the given objects for the commits. -/
def writtenWith (snapshot : Snapshot) (active revoked : List Json) : Field → Json
  | .active => .list active
  | .revoked => .list revoked
  | field => snapshot.written field

/-- The text is an object for the snapshot that lacks the omitted fields and has the given objects for
the commits, and then the rest. -/
def Begins (snapshot : Snapshot) (omitted : List schema.Field) (active revoked : List Json)
    (text : String) (rest : List Char) : Prop :=
  ∃ json, schema.IsLayout (snapshot.writtenWith active revoked) omitted json ∧
    Json.Begins text json rest

section

variable {snapshot : Snapshot} {active revoked : List Json} {text : String} {rest : List Char}

theorem IsReadable.commits (readable : snapshot.IsReadable) :
    ∀ commit ∈ snapshot.active ++ snapshot.revoked, commit.transaction.IsReadable :=
  fun commit member =>
    readable _ (List.mem_append_right _ (List.mem_map.mpr ⟨commit, member, rfl⟩))

theorem read_writtenWith (readable : snapshot.IsReadable) (field : Field)
    (actives : field = .active → Commit.AreLayouts snapshot.active active)
    (revokes : field = .revoked → Commit.AreLayouts snapshot.revoked revoked) :
    schema.read field (snapshot.writtenWith active revoked field) = .ok (snapshot.values field) := by
  cases field with
  | active =>
    exact Commit.list_read_layout (fun commit member =>
      readable.commits commit (List.mem_append_left _ member)) (actives rfl)
  | revoked =>
    exact Commit.list_read_layout (fun commit member =>
      readable.commits commit (List.mem_append_right _ member)) (revokes rfl)
  | _ => exact read_written readable _

theorem ofText_of_read {members : List (Option String × Json)}
    (begins : Json.Begins text (.object members true) rest)
    (reads : read (.object members true) = .ok snapshot) :
    ofText text = if AreBlank rest then .ok snapshot else .error (.unreadableSnapshot .malformed) := by
  simp only [ofText, Json.readText, Json.ofText_of_begins begins, reads, bind, Except.bind]
  by_cases blank : AreBlank rest <;> simp only [blank, decide_true, decide_false] <;> rfl

/-- What is wrong inside the object comes before what follows it. -/
theorem ofText_of_read_error {members : List (Option String × Json)}
    (begins : Json.Begins text (.object members true) rest) {cause : ReadError Transaction.TextError}
    (fails : read (.object members true) = .error cause) :
    ofText text = .error (.unreadableSnapshot cause) := by
  simp only [ofText, Json.readText, Json.ofText_of_begins begins, fails, bind, Except.bind]

/-- A snapshot is read from its fields in any order and among any others. -/
theorem ofText_of_layout (readable : snapshot.IsReadable)
    (actives : Commit.AreLayouts snapshot.active active)
    (revokes : Commit.AreLayouts snapshot.revoked revoked)
    (begins : snapshot.Begins [] active revoked text rest) :
    ofText text = if AreBlank rest then .ok snapshot else .error (.unreadableSnapshot .malformed) := by
  obtain ⟨json, layout, begins⟩ := begins
  have reads : read json = .ok snapshot := by
    rw [read, layout.readValues_ok field?_name (by decide) fun field =>
      read_writtenWith readable field (fun _ => actives) (fun _ => revokes)]
    rfl
  cases layout
  exact ofText_of_read begins reads

theorem ofText_missing (readable : snapshot.IsReadable)
    (actives : Commit.AreLayouts snapshot.active active)
    (revokes : Commit.AreLayouts snapshot.revoked revoked) {missing : schema.Field}
    (begins : snapshot.Begins [missing] active revoked text rest) :
    ofText text = .error (.unreadableSnapshot (.missingField (schema.name missing))) := by
  obtain ⟨json, layout, begins⟩ := begins
  have fails : read json = .error (.missingField (schema.name missing)) := by
    rw [read, layout.readValues_missing field?_name (by decide) fun field _ =>
      read_writtenWith readable field (fun _ => actives) (fun _ => revokes)]
    rfl
  cases layout
  exact ofText_of_read_error begins fails

/-- One commit of the snapshot has an object that lacks a field. -/
def LacksCommitField (snapshot : Snapshot) (field : Commit.schema.Field) (active revoked : List Json) :
    Prop :=
  Commit.LackOne field snapshot.active active ∧ Commit.AreLayouts snapshot.revoked revoked ∨
  Commit.AreLayouts snapshot.active active ∧ Commit.LackOne field snapshot.revoked revoked

theorem ofText_lacking (readable : snapshot.IsReadable) {field : Commit.schema.Field}
    (lacks : snapshot.LacksCommitField field active revoked)
    (begins : snapshot.Begins [] active revoked text rest) :
    ofText text = .error (.unreadableSnapshot (.missingField (Commit.schema.name field))) := by
  obtain ⟨json, layout, begins⟩ := begins
  have fails : read json = .error (.missingField (Commit.schema.name field)) := by
    rcases lacks with ⟨lack, revokes⟩ | ⟨actives, lack⟩
    · have failed : schema.read .active (snapshot.writtenWith active revoked .active) = _ :=
        Commit.list_read_lacking (fun commit member =>
          readable.commits commit (List.mem_append_left _ member)) lack
      rw [read, layout.readValues_error field?_name (by decide) failed fun field different =>
        read_writtenWith readable field (fun same => absurd same different) (fun _ => revokes)]
      rfl
    · have failed : schema.read .revoked (snapshot.writtenWith active revoked .revoked) = _ :=
        Commit.list_read_lacking (fun commit member =>
          readable.commits commit (List.mem_append_right _ member)) lack
      rw [read, layout.readValues_error field?_name (by decide) failed fun field different =>
        read_writtenWith readable field (fun _ => actives) (fun same => absurd same different)]
      rfl
  cases layout
  exact ofText_of_read_error begins fails

/-! ### Texts of any objects -/

section

variable {members : List (Option String × Json)}
  (begins : Json.Begins text (.object members true) rest)

include begins

theorem ofText_fails (fails : ∀ snapshot, read (.object members true) ≠ .ok snapshot) :
    ∃ cause, ofText text = .error cause := by
  cases reads : read (.object members true) with
  | error cause => exact ⟨_, ofText_of_read_error begins reads⟩
  | ok snapshot => exact absurd reads (fails snapshot)

theorem ofText_followed (more : ¬ AreBlank rest) : ∃ cause, ofText text = .error cause := by
  cases reads : read (.object members true) with
  | error cause => exact ⟨_, ofText_of_read_error begins reads⟩
  | ok snapshot => exact ⟨_, by rw [ofText_of_read begins reads, if_neg more]⟩

theorem ofText_duplicate {field : schema.Field}
    (twice : List.Duplicate (some (schema.name field)) (members.map (·.1))) :
    ∃ cause, ofText text = .error cause := by
  refine ofText_fails begins fun snapshot reads => ?_
  obtain ⟨values, ok⟩ := Reader.exists_of_map_eq_ok reads
  exact (Json.Schema.readValues_eq_ok (field?_name field) ok).1 twice

theorem ofText_unnamed (unnamed : none ∈ members.map (·.1)) :
    ∃ cause, ofText text = .error cause := by
  refine ofText_fails begins fun snapshot reads => ?_
  obtain ⟨values, ok⟩ := Reader.exists_of_map_eq_ok reads
  exact Json.Schema.none_not_mem_of_readValues ok unnamed

theorem ofText_commit_duplicate {key : String}
    (isList : key = schema.name .active ∨ key = schema.name .revoked)
    {items : List Json} {closed : Bool} (list : (some key, .array items closed) ∈ members)
    {inner : List (Option String × Json)} {innerClosed : Bool}
    (item : .object inner innerClosed ∈ items) {field : Commit.schema.Field}
    (twice : List.Duplicate (some (Commit.schema.name field)) (inner.map (·.1))) :
    ∃ cause, ofText text = .error cause := by
  refine ofText_fails begins fun snapshot reads => ?_
  obtain ⟨values, ok⟩ := Reader.exists_of_map_eq_ok reads
  have commits : ∃ commits, Reader.list Commit.read (.array items closed) = .ok commits := by
    rcases isList with rfl | rfl
    · exact (Json.Schema.readValues_eq_ok (field?_name .active) ok).2 _ list
    · exact (Json.Schema.readValues_eq_ok (field?_name .revoked) ok).2 _ list
  obtain ⟨commits, ok⟩ := commits
  obtain ⟨commit, ok⟩ := Reader.read_of_mem ok item
  obtain ⟨values, ok⟩ := Reader.exists_of_map_eq_ok ok
  exact (Json.Schema.readValues_eq_ok (Commit.field?_name field) ok).1 twice

end

end

theorem writtenWith_toJson (snapshot : Snapshot) :
    snapshot.writtenWith (snapshot.active.map (·.toJson)) (snapshot.revoked.map (·.toJson)) =
      snapshot.written := by
  funext field
  cases field <;> rfl

/-- The text that is written of a snapshot is one of its texts. -/
theorem begins_toText (snapshot : Snapshot) :
    snapshot.Begins [] (snapshot.active.map (·.toJson)) (snapshot.revoked.map (·.toJson))
      snapshot.toText [] := by
  refine ⟨snapshot.toJson, ?_, ?_⟩
  · rw [writtenWith_toJson, toJson_eq]
    exact .record (List.Perm.refl _)
  · have written := Json.writes_renderChars snapshot.toJson snapshot.isPlain_toJson
    exact .mk .nil written (by simp [toText, Json.render])

/-- A field of which nothing can be read decides what comes of the text that is written. -/
theorem ofText_toText_error {snapshot : Snapshot} (values : schema.Values) {bad : schema.Field}
    {cause : ReadError Transaction.TextError}
    (fails : schema.read bad (snapshot.written bad) = .error cause)
    (written : ∀ field ≠ bad, schema.read field (snapshot.written field) = .ok (values field)) :
    ofText snapshot.toText = .error (.unreadableSnapshot cause) := by
  obtain ⟨json, layout, begins⟩ := snapshot.begins_toText
  rw [writtenWith_toJson] at layout
  have failed : read json = .error cause := by
    rw [read, layout.readValues_error field?_name (by decide) fails written]
    rfl
  cases layout
  exact ofText_of_read_error begins failed

/-- Any text of an object that has the fields of a snapshot, and those of each of its commits, is read
as that snapshot: in any order, among members of other names, and with blanks anywhere. What is written
of the snapshot is such a text. A field of the snapshot or of a commit that is left out is reported,
also one that may be null; a repeated field and anything but blanks behind the object are refused,
whatever else is there. -/
theorem each_key_counts_once_in_any_layout (snapshot : Snapshot) (readable : snapshot.IsReadable) :
    (Commit.AreLayouts snapshot.active (snapshot.active.map (·.toJson)) ∧
      Commit.AreLayouts snapshot.revoked (snapshot.revoked.map (·.toJson)) ∧
      snapshot.Begins [] (snapshot.active.map (·.toJson)) (snapshot.revoked.map (·.toJson))
        snapshot.toText []) ∧
    (∀ active revoked, Commit.AreLayouts snapshot.active active →
      Commit.AreLayouts snapshot.revoked revoked → ∀ text rest,
        (snapshot.Begins [] active revoked text rest → AreBlank rest → ofText text = .ok snapshot) ∧
        ∀ missing, snapshot.Begins [missing] active revoked text rest →
          ofText text = .error (.unreadableSnapshot (.missingField (schema.name missing)))) ∧
    (∀ active revoked missing, snapshot.LacksCommitField missing active revoked → ∀ text rest,
      snapshot.Begins [] active revoked text rest →
        ofText text = .error (.unreadableSnapshot (.missingField (Commit.schema.name missing)))) ∧
    ∀ text members rest, Json.Begins text (.object members true) rest →
      (∀ field, List.Duplicate (some (schema.name field)) (members.map (·.1)) →
        ∃ cause, ofText text = .error cause) ∧
      (∀ key, key = schema.name .active ∨ key = schema.name .revoked →
        ∀ items closed, (some key, .array items closed) ∈ members →
        ∀ inner innerClosed, .object inner innerClosed ∈ items →
        ∀ field, List.Duplicate (some (Commit.schema.name field)) (inner.map (·.1)) →
          ∃ cause, ofText text = .error cause) ∧
      (¬ AreBlank rest → ∃ cause, ofText text = .error cause) := by
  refine ⟨⟨Commit.areLayouts_toJson _, Commit.areLayouts_toJson _, snapshot.begins_toText⟩,
    fun active revoked actives revokes text rest => ⟨fun begins blank => ?_, fun missing => ?_⟩,
    fun active revoked missing lacks text rest => ofText_lacking readable lacks,
    fun text members rest begins => ⟨fun field => ofText_duplicate begins, ?_, ofText_followed begins⟩⟩
  · rw [ofText_of_layout readable actives revokes begins, if_pos blank]
  · exact ofText_missing readable actives revokes
  · exact fun key isList items closed list inner innerClosed item field =>
      ofText_commit_duplicate begins isList list item

namespace Sample

/-- The fields of a commit, last first. -/
def reversedCommit (commit : Commit) : Json :=
  .record (Commit.schema.fields.reverse.map fun field =>
    (Commit.schema.name field, commit.written field))

/-- Some fields of the kept snapshot, behind a member of another name. -/
def members (fields : List schema.Field) : List (Option String × Json) :=
  (some "note", .list [.null]) :: fields.map fun field => (some (schema.name field),
    kept.writtenWith (kept.active.map reversedCommit) (kept.revoked.map reversedCommit) field)

/-- The text of an object between two blanks, and then the rest. -/
def text (members : List (Option String × Json)) (rest : List Char) : String :=
  String.ofList (' ' :: Json.renderChars (.object members true) ++ '\n' :: rest)

theorem areLayouts_reversed (commits : List Commit) :
    Commit.AreLayouts commits (commits.map reversedCommit) :=
  List.forall₂_map_right_iff.mpr
    (List.forall₂_same.mpr fun _ _ => Json.Schema.IsLayout.record (List.reverse_perm _))

theorem begins_text {members : List (Option String × Json)}
    (plain : Json.isPlain (.object members true)) (rest : List Char) :
    Json.Begins (text members rest) (.object members true) ('\n' :: rest) :=
  have blank : AreBlank [' '] := by decide
  .mk blank (Json.writes_renderChars _ plain) (by simp [text])

theorem begins_members {omitted fields : List schema.Field}
    (all : (omitted ++ fields).Perm schema.fields)
    (plain : Json.isPlain (.object (members fields) true)) (rest : List Char) :
    kept.Begins omitted (kept.active.map reversedCommit) (kept.revoked.map reversedCommit)
      (text (members fields) rest) ('\n' :: rest) :=
  have unknown (field : Field) : schema.name field ≠ "note" := by cases field <;> decide
  ⟨_, .mk all (.other unknown rfl (.of_fields _ fields)), begins_text plain rest⟩

end Sample

theorem each_key_counts_once_in_any_layout_reversed :
    let fields := schema.fields.reverse
    Sample.kept.IsReadable ∧
    ofText (Sample.text (Sample.members fields) []) = .ok Sample.kept ∧
    ofText (Sample.text (Sample.members fields.dropLast) []) =
      .error (.unreadableSnapshot (.missingField "payer_key")) ∧
    (∃ cause, ofText (Sample.text (Sample.members (.payerKey :: fields)) []) = .error cause) ∧
    ∃ cause, ofText (Sample.text (Sample.members fields) ['x']) = .error cause := by
  intro fields
  have readable : Sample.kept.IsReadable := by decide +kernel
  obtain ⟨-, complete, -, others⟩ := each_key_counts_once_in_any_layout Sample.kept readable
  have layouts := complete _ _ (Sample.areLayouts_reversed _) (Sample.areLayouts_reversed _)
  have all : ([] ++ fields).Perm schema.fields := List.reverse_perm _
  have butOne : (Field.payerKey :: fields.dropLast : List schema.Field).Perm schema.fields := by
    decide
  have plain : Json.isPlain (.object (Sample.members fields) true) := by decide +kernel
  have plainButOne : Json.isPlain (.object (Sample.members fields.dropLast) true) := by decide +kernel
  have plainTwice : Json.isPlain (.object (Sample.members (.payerKey :: fields)) true) := by
    decide +kernel
  refine ⟨readable, ?_, ?_, ?_, ?_⟩
  · exact (layouts _ _).1 (Sample.begins_members all plain []) (by decide)
  · exact (layouts _ _).2 .payerKey (Sample.begins_members butOne plainButOne [])
  · exact (others _ _ _ (Sample.begins_text plainTwice [])).1 .payerKey (by decide)
  · exact (others _ _ _ (Sample.begins_text plain ['x'])).2.2 (by decide)

namespace Sample

/-- The snapshot of a new channel. -/
def blank : Snapshot := ofState {}

/-- The witness of its input is one item of `size` bytes. -/
def weighty (size : Nat) : Transaction :=
  { witnessed with
    inputs := witnessed.inputs.map fun input => { input with witness := [List.replicate size 0] } }

def heavy (size : Nat) : Snapshot := { blank with timeoutTransaction := some (weighty size) }

/-- The blank snapshot, behind a member whose key is half of a surrogate pair. -/
def unnamed : Json :=
  .object ((none, .null) ::
    schema.fields.map fun field => (some (schema.name field), blank.written field)) true

theorem decode?_weighty {size : Nat} (large : Transaction.maxWitnessSize ≤ size)
    (fits : size < Bytes.capacity 8) : Transaction.decode? (weighty size).encode = none := by
  have countable : (weighty size).IsCountable := by
    have bound : Bytes.capacity 8 = 0x10000000000000000 := rfl
    rw [bound] at fits
    constructor <;> simp [weighty, witnessed, bound, fits]
  have counted : 0 < (CompactSize.encode size).length := by
    rw [CompactSize.encode]
    split_ifs <;> exact Nat.succ_pos _
  rw [countable.decode?_encode, if_neg]
  intro small
  have within := small _ List.mem_cons_self
  simp only [Transaction.witnessSize, Transaction.encodeBytes, List.flatMap_cons, List.flatMap_nil,
    List.append_nil, List.length_append, List.length_replicate] at within
  omega

theorem begins_unnamed : Json.Begins unnamed.render unnamed [] := by
  have plain : Json.arePlainMembers
      (schema.fields.map fun field => (some (schema.name field), blank.written field)) := by
    decide
  have written : Json.Writes unnamed unnamed.renderChars :=
    .object (.render_cons .null (Json.writesMembers_renderMembers _ plain))
  exact .mk .nil written (by simp [Json.render])

end Sample

/-- Not every layout is read: none of a snapshot with too large a witness, and none with a key that is
no text of characters. -/
theorem some_layouts_are_refused :
    let heavy := Sample.heavy 4000000
    (heavy.Begins [] [] [] heavy.toText [] ∧
      ofText heavy.toText = .error (.unreadableSnapshot (.badValue .undecodable))) ∧
    Sample.blank.IsReadable ∧ Json.Begins Sample.unnamed.render Sample.unnamed [] ∧
      ∃ cause, ofText Sample.unnamed.render = .error cause := by
  intro heavy
  have undecoded : Transaction.decode? (Sample.weighty 4000000).encode = none :=
    Sample.decode?_weighty (Nat.le_refl _) (by decide)
  have refused : ofText heavy.toText = .error (.unreadableSnapshot (.badValue .undecodable)) := by
    have fails : schema.read .timeoutTransaction (heavy.written .timeoutTransaction) = _ :=
      StoredReader.optionalTransaction_undecodable undecoded
    refine ofText_toText_error heavy.values fails fun field other => ?_
    cases field with
    | timeoutTransaction => exact absurd rfl other
    | _ => rfl
  have readable : Sample.blank.IsReadable := List.forall_mem_nil _
  exact ⟨⟨heavy.begins_toText, refused⟩, readable, Sample.begins_unnamed,
    ofText_unnamed Sample.begins_unnamed List.mem_cons_self⟩

end Snapshot
end PaymentChannel
