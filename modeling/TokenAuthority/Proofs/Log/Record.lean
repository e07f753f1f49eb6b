import TokenAuthority.Log.Record
import TokenAuthority.Proofs.Json.Data

/-!
What the line of a log record tells.

A record is tellable if it has a date, its template can be filled in, and the attributes that its
line shows can be written.  Its line is then printable ASCII, whatever code points it holds.  If the
attributes are data, reading the line back gives an object of exactly the members of the record, so
that the line tells them all.

Texts are read back with their surrogates joined.  A high surrogate and a low one after it are
written as the one character that they make up in UTF-16, and nothing in the line tells the two from
the one.
-/

namespace TokenAuthority.Log

/-! ### Members of a line -/

theorem map_fst_choose (names : List Text) (attributes : List (Text × Json)) :
    (names.filterMap fun name => (Json.lookup? name attributes).map (name, ·)).map Prod.fst =
      names.filter fun name => (Json.lookup? name attributes).isSome := by
  induction names with
  | nil => rfl
  | cons name rest inductionHypothesis =>
      rw [List.filterMap_cons, List.filter_cons, ← inductionHypothesis]
      cases Json.lookup? name attributes <;> rfl

theorem map_fst_chosenAttributes (attributes : List (Text × Json)) :
    (chosenAttributes attributes).map Prod.fst =
      knownAttributes.filter fun name => (Json.lookup? name attributes).isSome :=
  map_fst_choose knownAttributes attributes

theorem mem_chosenAttributes {attributes : List (Text × Json)} {name : Text} {value : Json} :
    (name, value) ∈ chosenAttributes attributes ↔
      name ∈ knownAttributes ∧ Json.lookup? name attributes = some value := by
  unfold chosenAttributes
  rw [List.mem_filterMap]
  constructor
  · rintro ⟨known, isKnown, chosen⟩
    obtain ⟨found, isFound, same⟩ := Option.map_eq_some_iff.mp chosen
    obtain ⟨rfl, rfl⟩ := Prod.mk.inj same
    exact ⟨isKnown, isFound⟩
  · rintro ⟨isKnown, isFound⟩
    exact ⟨name, isKnown, by rw [isFound]; rfl⟩

theorem lookup?_choose {names : List Text} {name : Text} (listed : name ∈ names)
    (attributes : List (Text × Json)) :
    Json.lookup? name (names.filterMap fun name => (Json.lookup? name attributes).map (name, ·)) =
      Json.lookup? name attributes := by
  induction names with
  | nil => cases listed
  | cons first rest inductionHypothesis =>
      rw [List.filterMap_cons]
      by_cases same : first = name
      · subst same
        cases found : Json.lookup? first attributes with
        | some value => exact if_pos rfl
        | none =>
            apply Json.lookup?_of_notMem
            rw [Option.map_none, map_fst_choose, List.mem_filter, found]
            simp
      · have later := inductionHypothesis ((List.mem_cons.mp listed).resolve_left (Ne.symm same))
        cases Json.lookup? first attributes with
        | some value => exact (if_neg same).trans later
        | none => exact later

theorem lookup?_chosenAttributes {name : Text} (known : name ∈ knownAttributes)
    (attributes : List (Text × Json)) :
    Json.lookup? name (chosenAttributes attributes) = Json.lookup? name attributes :=
  lookup?_choose known attributes

/-- The names of what a line tells of a fault. -/
def faultNames : List Text :=
  ["exc_type", "exc_info"]

theorem FaultNote.map_fst_members (note : FaultNote) :
    note.members.map Prod.fst = if note = .absent then [] else faultNames := by
  cases note <;> rfl

namespace Record

/-- The members of the line of a record. -/
def members (record : Record) (created : Int) (message : Text) : List (Text × Json) :=
  record.opening created ++ (("message" : Text), .text message) :: record.closing

/-- The names that every line has. -/
def commonNames : List Text :=
  ["time", "level", "logger", "message", "request_id"]

variable {record : Record} {created : Int}

theorem map_fst_members (record : Record) (created : Int) (message : Text) :
    (record.members created message).map Prod.fst =
      commonNames ++ (chosenAttributes record.attributes).map Prod.fst ++
        record.fault.members.map Prod.fst := by
  unfold members opening closing commonNames
  simp

theorem nodup_members (record : Record) (created : Int) (message : Text) :
    ((record.members created message).map Prod.fst).Nodup := by
  have distinct : (commonNames ++ knownAttributes ++ faultNames).Nodup := by decide
  have chosen : ((chosenAttributes record.attributes).map Prod.fst).Sublist knownAttributes := by
    rw [map_fst_chosenAttributes]
    exact List.filter_sublist
  have fault : (record.fault.members.map Prod.fst).Sublist faultNames := by
    rw [FaultNote.map_fst_members]
    split
    · exact List.nil_sublist _
    · exact List.Sublist.refl _
  rw [map_fst_members]
  exact distinct.sublist (((List.Sublist.refl commonNames).append chosen).append fault)

theorem mem_map_fst_members {message name : Text} :
    name ∈ (record.members created message).map Prod.fst ↔
      name ∈ commonNames ∨
        (name ∈ knownAttributes ∧ (Json.lookup? name record.attributes).isSome = true) ∨
        (name ∈ faultNames ∧ record.fault ≠ .absent) := by
  rw [map_fst_members, map_fst_chosenAttributes, FaultNote.map_fst_members, List.mem_append,
    List.mem_append, List.mem_filter, or_assoc]
  by_cases absent : record.fault = .absent <;> simp [absent]

theorem notMem_commonNames {name : Text}
    (special : name ∈ knownAttributes ∨ name ∈ faultNames) : name ∉ commonNames := by
  have apart : ∀ other ∈ knownAttributes ++ faultNames, other ∉ commonNames := by
    decide
  exact apart name (List.mem_append.mpr special)

theorem lookup?_members {name : Text} (uncommon : name ∉ commonNames) (message : Text) :
    Json.lookup? name (record.members created message) = Json.lookup? name record.closing := by
  have notBefore :
      name ∉ (record.opening created ++ [(("message" : Text), Json.text message)]).map Prod.fst :=
    fun before => uncommon (List.mem_append_left [("request_id" : Text)] before)
  have isAppend : record.members created message =
      (record.opening created ++ [(("message" : Text), Json.text message)]) ++ record.closing := by
    simp [members]
  rw [isAppend, Json.lookup?_append_right notBefore]

theorem lookup?_closing {name : Text} (uncommon : name ∉ commonNames) :
    Json.lookup? name record.closing =
      Json.lookup? name (chosenAttributes record.attributes ++ record.fault.members) := by
  apply if_neg
  rintro rfl
  exact uncommon (by decide)

theorem lookup?_closing_attribute {name : Text} (known : name ∈ knownAttributes) :
    Json.lookup? name record.closing = Json.lookup? name record.attributes := by
  have notFault : name ∉ record.fault.members.map Prod.fst := by
    have apart : ∀ other ∈ knownAttributes, other ∉ faultNames := by decide
    rw [FaultNote.map_fst_members]
    split
    · exact List.not_mem_nil
    · exact apart name known
  rw [lookup?_closing (notMem_commonNames (.inl known)), Json.lookup?_append_left notFault,
    lookup?_chosenAttributes known]

theorem lookup?_members_fault {name : Text} (isFault : name ∈ faultNames)
    (message : Text) :
    Json.lookup? name (record.members created message) =
      Json.lookup? name record.fault.members := by
  have uncommon := notMem_commonNames (.inr isFault)
  have notChosen : name ∉ (chosenAttributes record.attributes).map Prod.fst := by
    have apart : ∀ other ∈ faultNames, other ∉ knownAttributes := by decide
    rw [map_fst_chosenAttributes, List.mem_filter]
    exact fun chosen => apart name isFault chosen.1
  rw [lookup?_members uncommon, lookup?_closing uncommon, Json.lookup?_append_right notChosen]

/-- Whether an object has exactly the members of the line of a record, each with what the record
holds, its surrogates joined. -/
structure IsToldBy (record : Record) (created : Int) (message : Text)
    (members : List (Text × Json)) : Prop where
  distinct : (members.map Prod.fst).Nodup
  names : ∀ name, name ∈ members.map Prod.fst ↔
    name ∈ commonNames ∨
      (name ∈ knownAttributes ∧ (Json.lookup? name record.attributes).isSome = true) ∨
      (name ∈ faultNames ∧ record.fault ≠ .absent)
  time : Json.lookup? "time" members = some (.text (Instant.text created))
  level : Json.lookup? "level" members = some (.text (levelName record.level))
  logger : Json.lookup? "logger" members = some (.text record.logger.join)
  message : Json.lookup? "message" members = some (.text message.join)
  request : Json.lookup? "request_id" members = some (Json.joined record.requestId)
  attributes : ∀ name ∈ knownAttributes,
    Json.lookup? name members = (Json.lookup? name record.attributes).map Json.joined
  fault : ∀ fault, record.fault = .present fault →
    Json.lookup? "exc_type" members = some (.text (Text.ofString fault.name)) ∧
      Json.lookup? "exc_info" members = some (.text fault.description.join)
  noFault : record.fault = .empty →
    Json.lookup? "exc_type" members = some .null ∧
      Json.lookup? "exc_info" members = some (.text "NoneType: None")

theorem isUnpaired_of_isName {name : Text}
    (isName : name ∈ commonNames ++ knownAttributes ++ faultNames) : name.IsUnpaired := by
  have checked : ∀ other ∈ commonNames ++ knownAttributes ++ faultNames,
      Text.IsUnpaired other := by decide
  exact checked name isName

theorem isUnpaired_name_of_mem_members {message : Text} {member : Text × Json}
    (isMember : member ∈ record.members created message) : member.1.IsUnpaired := by
  apply isUnpaired_of_isName
  rw [List.mem_append, List.mem_append]
  rcases mem_map_fst_members.mp (List.mem_map_of_mem isMember) with
    common | ⟨known, -⟩ | ⟨isFault, -⟩
  · exact .inl (.inl common)
  · exact .inl (.inr known)
  · exact .inr isFault

theorem lookup?_joined (name message : Text) :
    Json.lookup? name (Json.joinedMembers (record.members created message)) =
      (Json.lookup? name (record.members created message)).map Json.joined :=
  Json.lookup?_joinedMembers fun _ => isUnpaired_name_of_mem_members

theorem lookup?_joined_text {name message content : Text}
    (found : Json.lookup? name (record.members created message) = some (.text content)) :
    Json.lookup? name (Json.joinedMembers (record.members created message)) =
      some (.text content.join) := by
  rw [lookup?_joined, found, Option.map_some, Json.joined_text]

theorem joinedNames_members (record : Record) (created : Int) (message : Text) :
    Json.joinedNames (record.members created message) =
      (record.members created message).map Prod.fst := by
  unfold Json.joinedNames
  refine List.map_congr_left fun member isMember => ?_
  exact Text.join_eq_self_iff.mpr (isUnpaired_name_of_mem_members isMember)

theorem isToldBy_joinedMembers (record : Record) (created : Int) (message : Text) :
    record.IsToldBy created message (Json.joinedMembers (record.members created message)) where
  distinct := by
    rw [Json.names_joinedMembers, joinedNames_members]
    exact nodup_members record created message
  names _ := by
    rw [Json.names_joinedMembers, joinedNames_members]
    exact mem_map_fst_members
  time := (lookup?_joined_text rfl).trans (by rw [Text.join_ofString])
  level := (lookup?_joined_text rfl).trans (by rw [Text.join_ofString])
  logger := lookup?_joined_text rfl
  message := lookup?_joined_text rfl
  request := (lookup?_joined _ message).trans rfl
  attributes _ known := by
    rw [lookup?_joined, lookup?_members (notMem_commonNames (.inl known)),
      lookup?_closing_attribute known]
  fault fault isPresent := by
    rw [lookup?_joined, lookup?_joined, lookup?_members_fault (by decide),
      lookup?_members_fault (by decide), isPresent, ← Text.join_ofString fault.name,
      ← Json.joined_text, ← Json.joined_text]
    exact ⟨rfl, rfl⟩
  noFault isEmpty := by
    rw [lookup?_joined, lookup?_joined, lookup?_members_fault (by decide),
      lookup?_members_fault (by decide), isEmpty, ← Json.joined_null,
      ← Text.join_ofString "NoneType: None", ← Json.joined_text]
    exact ⟨rfl, rfl⟩

/-! ### Lines -/

/-- Whether a record has a date and a message, and whether the attributes that its line shows can be
written with so many levels of nesting. -/
structure IsTellable (record : Record) (levels : Nat) (created : Int) (message : Text) :
    Prop where
  date : Instant.ofSeconds? record.created = some created
  message : Template.message levels record.template record.arguments = .ok message
  written : Json.writeError? 0 levels (.object record.closing) = none

/-- Whether the attributes that the line of a record shows are data. -/
def ShowsData (record : Record) : Prop :=
  ∀ name ∈ ("request_id" : Text) :: knownAttributes, ∀ value,
    Json.lookup? name record.attributes = some value → value.IsData

namespace ShowsData

variable (data : record.ShowsData)

include data

theorem isData_requestId : record.requestId.IsData := by
  unfold requestId
  cases found : Json.lookup? "request_id" record.attributes with
  | none => simp [Json.IsData]
  | some value => exact data _ List.mem_cons_self value found

theorem isData_closing : ∀ member ∈ record.closing, member.2.IsData := by
  have fault : ∀ member ∈ record.fault.members, member.2.IsData := by
    cases record.fault <;> simp [FaultNote.members, Json.IsData]
  unfold closing
  rw [List.forall_mem_cons, List.forall_mem_append]
  refine ⟨data.isData_requestId, ?_, fault⟩
  rintro ⟨name, value⟩ chosen
  obtain ⟨known, found⟩ := mem_chosenAttributes.mp chosen
  exact data name (List.mem_cons_of_mem _ known) value found

theorem isData_members (created : Int) (message : Text) :
    (Json.object (record.members created message)).IsData := by
  rw [Json.IsData, Json.allMembersData_iff, joinedNames_members]
  refine ⟨nodup_members record created message, ?_⟩
  have text : ∀ content : Text, (Json.text content).IsData := by
    intro content
    rw [Json.IsData]
    trivial
  unfold members opening
  simp only [List.forall_mem_append, List.forall_mem_cons]
  exact ⟨⟨text _, text _, text _, List.forall_mem_nil _⟩, text _, data.isData_closing⟩

end ShowsData

namespace IsTellable

variable {levels : Nat} {message : Text} (tellable : record.IsTellable levels created message)

include tellable

theorem line_eq : record.line levels = .ok (String.ofList (record.write created message)) := by
  unfold line
  simp only [tellable.date, tellable.message, tellable.written]

/-- The texts before the attributes can be written as soon as these can. -/
theorem written_members :
    Json.writeError? 0 levels (.object (record.members created message)) = none := by
  have written := tellable.written
  cases levels with
  | zero => cases written
  | succ levels =>
      rw [Json.writeError?, Json.membersWriteError?_eq_none_iff] at written ⊢
      have text : ∀ content : Text, (Json.text content).writeError? 0 levels = none := by
        intro content
        cases levels <;> rfl
      unfold members opening
      simp only [List.forall_mem_append, List.forall_mem_cons]
      exact ⟨⟨text _, text _, text _, List.forall_mem_nil _⟩, text _, written⟩

end IsTellable

/-- A record is written as the object of its members. -/
theorem write_eq (record : Record) (created : Int) (message : Text) :
    record.write created message =
      Json.write .spaced (.object (record.members created message)) := by
  unfold write members
  rw [← Json.writeFields_map, List.map_append, List.map_cons, Json.write]
  rfl

/-- A record that can be told has a line, which is printable ASCII and so has no break in it.  When
it shows data, the line reads back, by any reader that goes as deep as the writer, as an object of
exactly the members of the record, each with what the record holds.  Two such records with the same
line have the same message, the same request and the same attributes, up to surrogates that are
joined. -/
theorem line_tells {levels : Nat} {message : Text}
    (tellable : record.IsTellable levels created message) :
    ∃ line, record.line levels = .ok line ∧
      (∀ character ∈ line.toList, Json.IsPrintable character) ∧
      (record.ShowsData →
        (∃ members, record.IsToldBy created message members ∧
          ∀ depth, levels ≤ depth → Json.read depth (Text.ofString line) = .ok (.object members)) ∧
        ∀ (other : Record) (otherLevels : Nat) (otherCreated : Int) (otherMessage : Text),
          other.IsTellable otherLevels otherCreated otherMessage → other.ShowsData →
          other.line otherLevels = .ok line →
            otherMessage.join = message.join ∧
              Json.joined other.requestId = Json.joined record.requestId ∧
              ∀ name ∈ knownAttributes,
                (Json.lookup? name other.attributes).map Json.joined =
                  (Json.lookup? name record.attributes).map Json.joined) := by
  have reads : ∀ {each : Record} {room : Nat} {date : Int} {text : Text},
      each.IsTellable room date text → each.ShowsData → ∀ depth, room ≤ depth →
        Json.read depth (Text.ofString (String.ofList (each.write date text))) =
          .ok (.object (Json.joinedMembers (each.members date text))) := by
    intro each room date text isTellable data depth within
    have read := Json.read_write_of_isData Json.Layout.separates_spaced
      (data.isData_members date text) isTellable.written_members within
    rw [Json.joined] at read
    rw [Text.ofString_ofList, write_eq, read]
  refine ⟨_, tellable.line_eq, ?_, fun data => ⟨⟨_, isToldBy_joinedMembers record created message,
    reads tellable data⟩, ?_⟩⟩
  · intro character membership
    rw [String.toList_ofList, write_eq] at membership
    exact Json.isPrintable_of_mem_write Json.Layout.separates_spaced _ character membership
  · intro other otherLevels otherCreated otherMessage otherTellable otherData sameLine
    rw [otherTellable.line_eq] at sameLine
    have read := reads tellable data (max levels otherLevels) (Nat.le_max_left _ _)
    rw [← Except.ok.inj sameLine, reads otherTellable otherData (max levels otherLevels)
      (Nat.le_max_right _ _)] at read
    have sameMembers := Json.object.inj (Except.ok.inj read)
    have told := isToldBy_joinedMembers record created message
    have otherTold := isToldBy_joinedMembers other otherCreated otherMessage
    rw [sameMembers] at otherTold
    refine ⟨?_, ?_, fun name known => ?_⟩
    · exact Json.text.inj (Option.some.inj (otherTold.message.symm.trans told.message))
    · exact Option.some.inj (otherTold.request.symm.trans told.request)
    · exact (otherTold.attributes name known).symm.trans (told.attributes name known)

/-- A record with quotes, line breaks and characters beyond the basic plane, with a lone surrogate,
numbers, nested values and a fault. -/
def awkward : Record where
  logger := "account_tokens.services"
  level := 40
  template := "user %s: \"%s\"\n%d"
  arguments := [.text "𝕦1", .text (.high ⟨0, by decide⟩ :: Text.ofString "a\\b\r"), .int 3]
  created := Binary64.ofInt 1767268800
  attributes :=
    [("user_id", .text "𝕦1\u2028"), ("count", .int (-3)),
      ("path", .array [.null, .object [("key", .bool true)]]),
      ("elapsed_ms", .float (.finite false (Nat.pow 2 1073 * 25))), ("request_id", .text "r1")]
  fault := .present ⟨"ValueError", "ValueError", "boom\n", ""⟩

def awkwardMessage : Text :=
  Text.ofString "user 𝕦1: \"" ++ .high ⟨0, by decide⟩ :: Text.ofString "a\\b\r\"\n3"

theorem isTellable_awkward : awkward.IsTellable 3 1767268800000000 awkwardMessage where
  date := by decide +kernel
  message := by decide +kernel
  written := by decide +kernel

theorem showsData_awkward : awkward.ShowsData := by
  have isNumber : (Json.float (.finite false (Nat.pow 2 1073 * 25))).IsData := by
    rw [Json.IsData]
    exact ⟨by decide +kernel, by decide +kernel⟩
  have isNested : (Json.array [.null, .object [("key", .bool true)]]).IsData := by
    simp [Json.IsData, Json.AllData, Json.AllMembersData, Json.joinedNames]
  have areData : ∀ member ∈ awkward.attributes, member.2.IsData := by
    simp only [awkward, List.forall_mem_cons]
    exact ⟨by simp [Json.IsData], by simp [Json.IsData], isNested, isNumber,
      by simp [Json.IsData], List.forall_mem_nil _⟩
  exact fun name _ value found => areData (name, value) (Json.mem_of_lookup? found)

theorem line_tells_awkward :
    ∃ line, awkward.line 3 = .ok line ∧
      (∃ members, Json.read 3 (Text.ofString line) = .ok (.object members) ∧
        awkward.IsToldBy 1767268800000000 awkwardMessage members) ∧
      ∀ (other : Record) (otherCreated : Int) (otherMessage : Text),
        other.IsTellable 3 otherCreated otherMessage → other.ShowsData →
        other.line 3 = .ok line → otherMessage.IsUnpaired → otherMessage = awkwardMessage := by
  obtain ⟨line, isLine, -, told⟩ := line_tells isTellable_awkward
  obtain ⟨⟨members, isToldBy, reads⟩, tells⟩ := told showsData_awkward
  refine ⟨line, isLine, ⟨members, reads 3 (Nat.le_refl 3), isToldBy⟩, ?_⟩
  intro other otherCreated otherMessage tellable data sameLine unpaired
  have sameJoined := (tells other 3 otherCreated otherMessage tellable data sameLine).1
  have awkwardUnpaired : awkwardMessage.IsUnpaired := by decide +kernel
  rwa [Text.join_eq_self_iff.mpr unpaired, Text.join_eq_self_iff.mpr awkwardUnpaired] at sameJoined

def plain (template : Text) (arguments : List Json) (attributes : List (Text × Json)) : Record where
  logger := "account_tokens.services"
  level := 20
  template := template
  arguments := arguments
  created := Binary64.ofInt 1767268800
  attributes := attributes
  fault := .absent

theorem isTellable_plain {levels : Nat} {template message : Text} {arguments : List Json}
    (positive : 0 < levels)
    (filled : Template.message levels template arguments = .ok message) :
    (plain template arguments []).IsTellable levels 1767268800000000 message where
  date := isTellable_awkward.date
  message := filled
  written := by
    cases levels with
    | zero => exact absurd positive (Nat.lt_irrefl 0)
    | succ levels =>
        rw [Json.writeError?, Json.membersWriteError?_eq_none_iff]
        intro member isMember
        rw [List.mem_singleton.mp isMember]
        cases levels <;> rfl

/-- Two surrogates and the character that they make up are different messages with the same line.  A
record has no line when one of its integers has too many digits, or when one of its attributes is
nested deeper than can be written. -/
theorem line_surrogates_eq :
    (∃ pair character : Text, pair ≠ character ∧
      (plain "%c%c" [.int 0xd800, .int 0xdc00] []).IsTellable 900 1767268800000000 pair ∧
      (plain "%c" [.int 0x10000] []).IsTellable 900 1767268800000000 character) ∧
    (∃ line, (plain "%c%c" [.int 0xd800, .int 0xdc00] []).line 900 = .ok line ∧
      (plain "%c" [.int 0x10000] []).line 900 = .ok line) ∧
    (plain "" [] [("count", .int (Nat.pow 10 4300))]).line 900 =
      .error (.unwritten .integerTooLong) ∧
    (plain "" [] [("path", .array [.array []])]).line 2 = .error (.unwritten .tooDeep) := by
  have pair : Template.message 900 "%c%c" [.int 0xd800, .int 0xdc00] = .ok [.high 0, .low 0] := by
    decide +kernel
  have character : Template.message 900 "%c" [.int 0x10000] = .ok [.char (Char.ofNat 0x10000)] := by
    decide +kernel
  have sameLine : (plain "%c%c" [.int 0xd800, .int 0xdc00] []).line 900 =
      (plain "%c" [.int 0x10000] []).line 900 := by decide +kernel
  have pairTellable := isTellable_plain (by decide) pair
  refine ⟨⟨_, _, by decide, pairTellable, isTellable_plain (by decide) character⟩, ?_, ?_, ?_⟩
  · exact ⟨_, pairTellable.line_eq, sameLine ▸ pairTellable.line_eq⟩
  · decide +kernel
  · decide +kernel

end Record

end TokenAuthority.Log
