import TokenAuthority.Json.Literal
import TokenAuthority.Proofs.Json.Float

/-!
Data that is written in JSON and read back.

A value is data if its numbers are finite ones of their format and its objects name no member twice,
also when the surrogates of the names are joined.  Data that can be written reads back, joined, by
any reader that has as many levels as were used for writing.
-/

namespace TokenAuthority.Json

/-! ### Data -/

mutual

def IsData : Json → Prop
  | .null => True
  | .bool _ => True
  | .int _ => True
  | .float value => value.IsFinite
  | .text _ => True
  | .array items => AllData items
  | .object members => (joinedNames members).Nodup ∧ AllMembersData members

def AllData : List Json → Prop
  | [] => True
  | item :: rest => IsData item ∧ AllData rest

def AllMembersData : List (Text × Json) → Prop
  | [] => True
  | (_, value) :: rest => IsData value ∧ AllMembersData rest

end

mutual

/-- Whether no text or name in a value has a pair of surrogates, which would be joined. -/
def IsUnpaired : Json → Prop
  | .null => True
  | .bool _ => True
  | .int _ => True
  | .float _ => True
  | .text content => Text.IsUnpaired content
  | .array items => AllUnpaired items
  | .object members => AllMembersUnpaired members

def AllUnpaired : List Json → Prop
  | [] => True
  | item :: rest => IsUnpaired item ∧ AllUnpaired rest

def AllMembersUnpaired : List (Text × Json) → Prop
  | [] => True
  | (name, value) :: rest => (Text.IsUnpaired name ∧ IsUnpaired value) ∧ AllMembersUnpaired rest

end

mutual

theorem joined_eq_self : ∀ {value : Json}, IsUnpaired value → joined value = value
  | .null, _ => by rw [joined]
  | .bool _, _ => by rw [joined]
  | .int _, _ => by rw [joined]
  | .float _, _ => by rw [joined]
  | .text content, unpaired => by
      rw [IsUnpaired] at unpaired
      rw [joined, Text.join_eq_self_iff.mpr unpaired]
  | .array items, unpaired => by
      rw [IsUnpaired] at unpaired
      rw [joined, joinedItems_eq_self unpaired]
  | .object members, unpaired => by
      rw [IsUnpaired] at unpaired
      rw [joined, joinedMembers_eq_self unpaired]
termination_by value => sizeOf value

theorem joinedItems_eq_self : ∀ {items : List Json}, AllUnpaired items → joinedItems items = items
  | [], _ => by rw [joinedItems]
  | item :: others, unpaired => by
      rw [AllUnpaired] at unpaired
      rw [joinedItems, joined_eq_self unpaired.1, joinedItems_eq_self unpaired.2]
termination_by items => sizeOf items

theorem joinedMembers_eq_self : ∀ {members : List (Text × Json)}, AllMembersUnpaired members →
    joinedMembers members = members
  | [], _ => by rw [joinedMembers]
  | (name, value) :: others, unpaired => by
      rw [AllMembersUnpaired] at unpaired
      obtain ⟨⟨nameUnpaired, valueUnpaired⟩, othersUnpaired⟩ := unpaired
      rw [joinedMembers, joinedMember, Text.join_eq_self_iff.mpr nameUnpaired,
        joined_eq_self valueUnpaired, joinedMembers_eq_self othersUnpaired]
termination_by members => sizeOf members

end

theorem allMembersData_iff {members : List (Text × Json)} :
    AllMembersData members ↔ ∀ member ∈ members, IsData member.2 := by
  induction members with
  | nil => simp [AllMembersData]
  | cons member rest inductionHypothesis =>
      rw [AllMembersData, inductionHypothesis, List.forall_mem_cons]

theorem membersWriteError?_eq_none_iff {scalar levels : Nat} {members : List (Text × Json)} :
    membersWriteError? scalar levels members = none ↔
      ∀ member ∈ members, member.2.writeError? scalar levels = none := by
  induction members with
  | nil => simp [membersWriteError?]
  | cons member rest inductionHypothesis =>
      rw [membersWriteError?, Option.or_eq_none_iff, inductionHypothesis, List.forall_mem_cons]

theorem isShort_of_writeError? {scalar levels : Nat} {value : Int}
    (written : (Json.int value).writeError? scalar levels = none) : IsShort value := by
  rw [writeError?] at written
  have positive : 0 < Numeral.digitLimit := by decide
  generalize isLimit : Numeral.digitLimit = limit at written positive
  split at written
  · cases written
  · split at written
    · next small => exact isShort_of_lt positive (Nat.le_of_eq isLimit.symm) small
    · cases written

mutual

/-- Data that can be written can be read back by a reader that has as many levels. -/
theorem isReadable_of_isData {scalar : Nat} : ∀ (value : Json) (levels depth : Nat),
    IsData value → value.writeError? scalar levels = none → levels ≤ depth →
      IsReadable depth value
  | .null, _, _ => by
      rw [IsReadable]
      exact fun _ _ _ => trivial
  | .bool _, _, _ => by
      rw [IsReadable]
      exact fun _ _ _ => trivial
  | .int value, _, _ => by
      rw [IsReadable]
      exact fun _ written _ => isShort_of_writeError? written
  | .float value, _, _ => by
      rw [IsData, IsReadable]
      exact fun isData _ _ => readsBack_of_isFinite isData
  | .text _, _, _ => by
      rw [IsReadable]
      exact fun _ _ _ => trivial
  | .array _, 0, _ => by
      rw [writeError?]
      exact fun _ written _ => nomatch written
  | .array _, levels + 1, 0 => fun _ _ within => absurd within (Nat.not_succ_le_zero levels)
  | .array items, levels + 1, depth + 1 => by
      rw [IsData, writeError?, IsReadable, Nat.succ_le_succ_iff]
      exact allReadable_of_allData items levels depth
  | .object _, 0, _ => by
      rw [writeError?]
      exact fun _ written _ => nomatch written
  | .object _, levels + 1, 0 => fun _ _ within => absurd within (Nat.not_succ_le_zero levels)
  | .object members, levels + 1, depth + 1 => by
      rw [IsData, writeError?, IsReadable, Nat.succ_le_succ_iff]
      rintro ⟨distinct, areData⟩ written within
      exact ⟨distinct, allMembersReadable_of_allMembersData members levels depth areData written
        within⟩
termination_by value => sizeOf value

theorem allReadable_of_allData {scalar : Nat} : ∀ (items : List Json) (levels depth : Nat),
    AllData items → itemsWriteError? scalar levels items = none → levels ≤ depth →
      AllReadable depth items
  | [], _, _ => by
      rw [AllReadable]
      exact fun _ _ _ => trivial
  | item :: others, levels, depth => by
      rw [AllData, itemsWriteError?, AllReadable, Option.or_eq_none_iff]
      rintro ⟨itemData, othersData⟩ ⟨itemWritten, othersWritten⟩ within
      exact ⟨isReadable_of_isData item levels depth itemData itemWritten within,
        allReadable_of_allData others levels depth othersData othersWritten within⟩
termination_by items => sizeOf items

theorem allMembersReadable_of_allMembersData {scalar : Nat} :
    ∀ (members : List (Text × Json)) (levels depth : Nat), AllMembersData members →
      membersWriteError? scalar levels members = none → levels ≤ depth →
      AllMembersReadable depth members
  | [], _, _ => by
      rw [AllMembersReadable]
      exact fun _ _ _ => trivial
  | (name, value) :: others, levels, depth => by
      rw [AllMembersData, membersWriteError?, AllMembersReadable, MemberReadable,
        Option.or_eq_none_iff]
      rintro ⟨valueData, othersData⟩ ⟨valueWritten, othersWritten⟩ within
      exact ⟨isReadable_of_isData value levels depth valueData valueWritten within,
        allMembersReadable_of_allMembersData others levels depth othersData othersWritten within⟩
termination_by members => sizeOf members

end

/-- Data that was written is read back from its whole text, with its surrogates joined. -/
theorem read_write_of_isData {layout : Layout} (separates : layout.Separates) {value : Json}
    {scalar levels depth : Nat} (isData : value.IsData)
    (written : value.writeError? scalar levels = none) (within : levels ≤ depth) :
    read depth (Text.ofChars (write layout value)) = .ok (joined value) :=
  read_write separates (isReadable_of_isData value levels depth isData written within)

/-! ### Members by name -/

theorem lookup?_joinedMembers {name : Text} {members : List (Text × Json)}
    (areUnpaired : ∀ member ∈ members, Text.IsUnpaired member.1) :
    lookup? name (joinedMembers members) = (lookup? name members).map joined := by
  induction members with
  | nil =>
      rw [joinedMembers]
      rfl
  | cons member rest inductionHypothesis =>
      obtain ⟨other, value⟩ := member
      rw [List.forall_mem_cons] at areUnpaired
      rw [joinedMembers, joinedMember, Text.join_eq_self_iff.mpr areUnpaired.1, lookup?, lookup?,
        inductionHypothesis areUnpaired.2]
      split <;> rfl

theorem isSome_lookup?_iff {name : Text} {members : List (Text × Json)} :
    (lookup? name members).isSome = true ↔ name ∈ members.map Prod.fst := by
  induction members with
  | nil => simp [lookup?]
  | cons member rest inductionHypothesis =>
      rw [List.map_cons, List.mem_cons, ← inductionHypothesis, lookup?]
      split
      · next same => simp [same]
      · next different => simp [Ne.symm different]

theorem lookup?_of_notMem {name : Text} {members : List (Text × Json)}
    (absent : name ∉ members.map Prod.fst) : lookup? name members = none := by
  rw [← isSome_lookup?_iff, Bool.not_eq_true, Option.isSome_eq_false_iff] at absent
  exact Option.isNone_iff_eq_none.mp absent

theorem mem_of_lookup? {name : Text} {value : Json} {members : List (Text × Json)}
    (found : lookup? name members = some value) : (name, value) ∈ members := by
  induction members with
  | nil => cases found
  | cons member rest inductionHypothesis =>
      rw [lookup?] at found
      split at found
      · next same =>
          cases found
          rw [← same]
          exact List.mem_cons_self
      · exact List.mem_cons_of_mem _ (inductionHypothesis found)

theorem lookup?_append (name : Text) (left right : List (Text × Json)) :
    lookup? name (left ++ right) = (lookup? name left).or (lookup? name right) := by
  induction left with
  | nil => rfl
  | cons member rest inductionHypothesis =>
      rw [List.cons_append, lookup?, lookup?, inductionHypothesis]
      split <;> rfl

theorem lookup?_append_left {name : Text} {right : List (Text × Json)}
    (absent : name ∉ right.map Prod.fst) (left : List (Text × Json)) :
    lookup? name (left ++ right) = lookup? name left := by
  rw [lookup?_append, lookup?_of_notMem absent, Option.or_none]

theorem lookup?_append_right {name : Text} {left : List (Text × Json)}
    (absent : name ∉ left.map Prod.fst) (right : List (Text × Json)) :
    lookup? name (left ++ right) = lookup? name right := by
  rw [lookup?_append, lookup?_of_notMem absent, Option.none_or]

/-! ### Objects from what was written for their values -/

variable {layout : Layout}

theorem writeField_eq_writeMember (member : Text × Json) :
    writeField layout (member.1, write layout member.2) = writeMember layout member := by
  obtain ⟨name, value⟩ := member
  rw [writeMember]
  rfl

theorem writeMembers_eq_flatMap (members : List (Text × Json)) :
    writeMembers layout members =
      members.flatMap (fun member => layout.itemSeparator ++ writeMember layout member) ++
        ['}'] := by
  induction members with
  | nil =>
      rw [writeMembers]
      rfl
  | cons member rest inductionHypothesis =>
      rw [writeMembers, inductionHypothesis, List.flatMap_cons, List.append_assoc,
        List.append_assoc, List.append_assoc]

/-- An object that is put together from its written values is the object written as a whole. -/
theorem writeFields_map (members : List (Text × Json)) :
    writeFields layout (members.map fun member => (member.1, write layout member.2)) =
      write layout (.object members) := by
  cases members with
  | nil => rw [List.map_nil, writeFields, write]
  | cons member rest =>
      rw [List.map_cons, writeFields, write, writeMembers_eq_flatMap, List.flatMap_map,
        List.append_assoc]
      simp only [writeField_eq_writeMember]

end TokenAuthority.Json
