import TokenAuthority.Proofs.Json.Integer
import TokenAuthority.Proofs.Json.Text

/-!
Reading back a value that was written in JSON.

A value is readable within a depth if its arrays and objects are not nested deeper, its objects name
no member twice, its integers are not too long, and its floating-point numbers read back by
themselves.  Reading such a value, in whatever layout it was written, takes exactly its characters
and spends no more fuel than there are.  It gives the value with the surrogates of its texts joined,
which is the value itself unless a high one stands right before a low one.
-/

namespace TokenAuthority.Json

/-! ### Joined values -/

mutual

/-- A value with the surrogates of its texts and names joined. -/
def joined : Json → Json
  | .null => .null
  | .bool value => .bool value
  | .int value => .int value
  | .float value => .float value
  | .text content => .text content.join
  | .array items => .array (joinedItems items)
  | .object members => .object (joinedMembers members)

def joinedItems : List Json → List Json
  | [] => []
  | item :: rest => joined item :: joinedItems rest

def joinedMember : Text × Json → Text × Json
  | (name, value) => (name.join, joined value)

def joinedMembers : List (Text × Json) → List (Text × Json)
  | [] => []
  | member :: rest => joinedMember member :: joinedMembers rest

end

@[simp]
theorem joined_null : joined .null = .null := by
  rw [joined]

@[simp]
theorem joined_int (value : Int) : joined (.int value) = .int value := by
  rw [joined]

@[simp]
theorem joined_object (members : List (Text × Json)) :
    joined (.object members) = .object (joinedMembers members) := by
  rw [joined]

@[simp]
theorem joinedMembers_nil : joinedMembers [] = [] := by
  rw [joinedMembers]

@[simp]
theorem joinedMembers_cons (name : Text) (value : Json) (rest : List (Text × Json)) :
    joinedMembers ((name, value) :: rest) = (name.join, joined value) :: joinedMembers rest := by
  rw [joinedMembers, joinedMember]

@[simp]
theorem joined_text (content : Text) : joined (.text content) = .text content.join := by
  rw [joined]

/-- The names of members as they read back. -/
def joinedNames (members : List (Text × Json)) : List Text :=
  members.map fun member => member.1.join

theorem names_joinedMembers (members : List (Text × Json)) :
    (joinedMembers members).map Prod.fst = joinedNames members := by
  induction members with
  | nil =>
      rw [joinedMembers]
      rfl
  | cons member rest inductionHypothesis =>
      obtain ⟨name, value⟩ := member
      rw [joinedMembers, joinedMember, List.map_cons, inductionHypothesis]
      rfl

/-! ### Readable values -/

/-- Whether a floating-point number is written in characters that read back as it. -/
structure ReadsBack (value : Binary64) : Prop where
  begins : ∃ first others, (value.textWith specialTexts).toList = first :: others ∧
    isSpace first = false ∧ first ≠ ']' ∧ first ≠ '}'
  read : ∀ fuel depth rest, EndsNumber rest →
    readValue (fuel + 1) depth (Text.ofString (value.textWith specialTexts) ++ rest) =
      .ok (.float value, rest)

mutual

/-- Whether a value can be written and read back within a depth. -/
def IsReadable : (depth : Nat) → Json → Prop
  | _, .null => True
  | _, .bool _ => True
  | _, .int value => IsShort value
  | _, .float value => ReadsBack value
  | _, .text _ => True
  | 0, .array _ => False
  | depth + 1, .array items => AllReadable depth items
  | 0, .object _ => False
  | depth + 1, .object members =>
      (joinedNames members).Nodup ∧ AllMembersReadable depth members

def AllReadable : (depth : Nat) → List Json → Prop
  | _, [] => True
  | depth, item :: rest => IsReadable depth item ∧ AllReadable depth rest

def MemberReadable : (depth : Nat) → Text × Json → Prop
  | depth, (_, value) => IsReadable depth value

def AllMembersReadable : (depth : Nat) → List (Text × Json) → Prop
  | _, [] => True
  | depth, member :: rest => MemberReadable depth member ∧ AllMembersReadable depth rest

end

/-! ### Layouts -/

/-- Whether the separators of a layout are the ones of the grammar, with blanks after them. -/
structure Layout.Separates (layout : Layout) : Prop where
  item : ∃ count, layout.itemSeparator = ',' :: List.replicate count ' '
  name : ∃ count, layout.nameSeparator = ':' :: List.replicate count ' '

theorem Layout.separates_compact : Layout.compact.Separates :=
  ⟨⟨0, rfl⟩, ⟨0, rfl⟩⟩

theorem Layout.separates_spaced : Layout.spaced.Separates :=
  ⟨⟨1, rfl⟩, ⟨1, rfl⟩⟩

theorem skipSpace_of_begins {first : Char} (notSpace : isSpace first = false) (rest : Text) :
    skipSpace (.char first :: rest) = .char first :: rest := by
  rw [skipSpace, Text.splitWhile_of_endsBefore (Text.endsBefore_cons notSpace rest)]

theorem skipSpace_replicate {first : Char} (notSpace : isSpace first = false) (count : Nat)
    (rest : Text) :
    skipSpace (Text.ofChars (List.replicate count ' ') ++ .char first :: rest) =
      .char first :: rest := by
  have blank : ∀ character ∈ List.replicate count ' ', isSpace character = true := by
    intro character membership
    rw [List.eq_of_mem_replicate membership]
    decide
  rw [skipSpace, Text.splitWhile_ofChars blank (Text.endsBefore_cons notSpace rest)]

/-- A written value begins with a character that is no blank and closes nothing. -/
theorem write_begins (layout : Layout) {depth : Nat} {value : Json}
    (readable : IsReadable depth value) :
    ∃ first others, write layout value = first :: others ∧ isSpace first = false ∧
      first ≠ ']' ∧ first ≠ '}' := by
  cases value with
  | null => exact ⟨'n', _, by rw [write], by decide⟩
  | bool value => cases value <;> exact ⟨_, _, by rw [write], by decide⟩
  | int value =>
      obtain ⟨first, others, begins, isMinus | isDigit⟩ := writeInt_begins value
      · rw [write, begins, isMinus]
        exact ⟨'-', others, rfl, by decide⟩
      · rw [write, begins]
        refine ⟨first, others, rfl, ?_, ne_of_isDigit isDigit rfl, ne_of_isDigit isDigit rfl⟩
        simp [isSpace, ne_of_isDigit isDigit]
  | float value =>
      rw [IsReadable] at readable
      rw [write]
      exact readable.begins
  | text value =>
      rw [write]
      exact ⟨'"', _, rfl, by decide⟩
  | array items => cases items <;> (rw [write]; exact ⟨'[', _, rfl, by decide⟩)
  | object members => cases members <;> (rw [write]; exact ⟨'{', _, rfl, by decide⟩)

theorem write_ne_nil (layout : Layout) {depth : Nat} {value : Json}
    (readable : IsReadable depth value) : write layout value ≠ [] := by
  obtain ⟨first, others, begins, -⟩ := write_begins layout readable
  rw [begins]
  exact List.cons_ne_nil _ _

/-! ### Reading -/

theorem setMember_of_notMem {name : Text} {members : List (Text × Json)}
    (fresh : name ∉ members.map Prod.fst) (value : Json) :
    setMember name value members = members ++ [(name, value)] := by
  induction members with
  | nil => rfl
  | cons member rest inductionHypothesis =>
      rw [List.map_cons, List.mem_cons, not_or] at fresh
      rw [setMember, if_neg (Ne.symm fresh.1), inductionHypothesis fresh.2, List.cons_append]

variable {layout : Layout}

theorem readValue_scalar {first : Char} (notQuote : first ≠ '"') (notBracket : first ≠ '[')
    (notBrace : first ≠ '{') (fuel depth : Nat) (rest : Text) :
    readValue (fuel + 1) depth (.char first :: rest) = readScalar (.char first :: rest) := by
  rw [readValue]
  · simpa using notQuote
  · simpa using notBracket
  · simpa using notBrace

theorem readValue_text (fuel depth : Nat) (text rest : Text) :
    readValue (fuel + 1) depth (Text.ofChars (writeText text) ++ rest) =
      .ok (.text text.join, rest) := by
  rw [ofChars_writeText_append, readValue, readText?_writeCodePoints]
  rfl

theorem readValue_int (fuel depth : Nat) {value : Int} (short : IsShort value) {rest : Text}
    (ends : EndsNumber rest) :
    readValue (fuel + 1) depth (Text.ofChars (writeInt value) ++ rest) =
      .ok (.int value, rest) := by
  have read := readScalar_writeInt ends short
  obtain ⟨first, others, begins, isMinus | isDigit⟩ := writeInt_begins value
  · rw [begins, isMinus, Text.ofChars_cons, List.cons_append] at read ⊢
    rw [readValue_scalar (by decide) (by decide) (by decide), read]
  · rw [begins, Text.ofChars_cons, List.cons_append] at read ⊢
    rw [readValue_scalar (ne_of_isDigit isDigit rfl) (ne_of_isDigit isDigit rfl)
      (ne_of_isDigit isDigit rfl), read]

theorem endsNumber_ofChars {front : List Char} {mark : Char} (isFirst : front.head? = some mark)
    (ends : (mark.isDigit || mark ∈ ['.', 'e', 'E']) = false) (rest : Text) :
    EndsNumber (Text.ofChars front ++ rest) := by
  cases front with
  | nil => cases isFirst
  | cons first others =>
      cases isFirst
      exact Text.endsBefore_cons ends _

/-- What stands after an item of an array or a member of an object ends a number. -/
theorem head?_separator (separates : layout.Separates) (rest : List Char) :
    (layout.itemSeparator ++ rest).head? = some ',' := by
  obtain ⟨count, isComma⟩ := separates.item
  rw [isComma]
  rfl

theorem endsNumber_writeItems (separates : layout.Separates) (items : List Json) (rest : Text) :
    EndsNumber (Text.ofChars (writeItems layout items) ++ rest) := by
  cases items with
  | nil =>
      rw [writeItems]
      exact Text.endsBefore_cons (by decide) _
  | cons item others =>
      rw [writeItems, List.append_assoc]
      exact endsNumber_ofChars (head?_separator separates _) (by decide) rest

theorem endsNumber_writeMembers (separates : layout.Separates) (members : List (Text × Json))
    (rest : Text) : EndsNumber (Text.ofChars (writeMembers layout members) ++ rest) := by
  cases members with
  | nil =>
      rw [writeMembers]
      exact Text.endsBefore_cons (by decide) _
  | cons member others =>
      rw [writeMembers, List.append_assoc]
      exact endsNumber_ofChars (head?_separator separates _) (by decide) rest

theorem length_writeItems_pos (separates : layout.Separates) (items : List Json) :
    0 < (writeItems layout items).length := by
  cases items with
  | nil =>
      rw [writeItems]
      decide
  | cons item others =>
      obtain ⟨count, isComma⟩ := separates.item
      rw [writeItems, isComma]
      simp

theorem length_writeMembers_pos (separates : layout.Separates) (members : List (Text × Json)) :
    0 < (writeMembers layout members).length := by
  cases members with
  | nil =>
      rw [writeMembers]
      decide
  | cons member others =>
      obtain ⟨count, isComma⟩ := separates.item
      rw [writeMembers, isComma]
      simp

/-- After an item, either the array is closed or the next item follows. -/
theorem skipSpace_writeItems (separates : layout.Separates) {depth : Nat} {next : Json}
    (readable : IsReadable depth next) (later : List Json) (rest : Text) :
    ∃ blanks, skipSpace (Text.ofChars (writeItems layout (next :: later)) ++ rest) =
        .char ',' :: blanks ∧
      skipSpace blanks = Text.ofChars (write layout next) ++
        (Text.ofChars (writeItems layout later) ++ rest) := by
  obtain ⟨count, isComma⟩ := separates.item
  obtain ⟨first, others, begins, notSpace, -⟩ := write_begins layout readable
  refine ⟨Text.ofChars (List.replicate count ' ') ++ (Text.ofChars (write layout next) ++
    (Text.ofChars (writeItems layout later) ++ rest)), ?_, ?_⟩
  · rw [writeItems, isComma]
    simp only [Text.ofChars_append, Text.ofChars_cons, List.append_assoc, List.cons_append]
    rw [skipSpace_of_begins (by decide)]
  · rw [begins, Text.ofChars_cons, List.cons_append, skipSpace_replicate notSpace]

theorem ofChars_writeMember_append (name : Text) (value : Json) (rest : Text) :
    Text.ofChars (writeMember layout (name, value)) ++ rest =
      .char '"' :: (Text.ofChars (name.flatMap writeCodePoint) ++
        .char '"' :: (Text.ofChars layout.nameSeparator ++
          (Text.ofChars (write layout value) ++ rest))) := by
  rw [writeMember, Text.ofChars_append, Text.ofChars_append, List.append_assoc, List.append_assoc,
    ofChars_writeText_append]

theorem skipSpace_writeMembers (separates : layout.Separates) (next : Text × Json)
    (later : List (Text × Json)) (rest : Text) :
    ∃ blanks, skipSpace (Text.ofChars (writeMembers layout (next :: later)) ++ rest) =
        .char ',' :: blanks ∧
      skipSpace blanks = Text.ofChars (writeMember layout next) ++
        (Text.ofChars (writeMembers layout later) ++ rest) := by
  obtain ⟨count, isComma⟩ := separates.item
  refine ⟨Text.ofChars (List.replicate count ' ') ++ (Text.ofChars (writeMember layout next) ++
    (Text.ofChars (writeMembers layout later) ++ rest)), ?_, ?_⟩
  · rw [writeMembers, isComma]
    simp only [Text.ofChars_append, Text.ofChars_cons, List.append_assoc, List.cons_append]
    rw [skipSpace_of_begins (by decide)]
  · obtain ⟨name, value⟩ := next
    rw [ofChars_writeMember_append, skipSpace_replicate (by decide)]

theorem skipSpace_nameSeparator (separates : layout.Separates) {depth : Nat} {value : Json}
    (readable : IsReadable depth value) (rest : Text) :
    ∃ blanks, skipSpace (Text.ofChars layout.nameSeparator ++
        (Text.ofChars (write layout value) ++ rest)) = .char ':' :: blanks ∧
      skipSpace blanks = Text.ofChars (write layout value) ++ rest := by
  obtain ⟨count, isColon⟩ := separates.name
  obtain ⟨first, others, begins, notSpace, -⟩ := write_begins layout readable
  refine ⟨Text.ofChars (List.replicate count ' ') ++ (Text.ofChars (write layout value) ++ rest),
    ?_, ?_⟩
  · rw [isColon, Text.ofChars_cons, List.cons_append, skipSpace_of_begins (by decide)]
  · rw [begins, Text.ofChars_cons, List.cons_append, skipSpace_replicate notSpace]

mutual

/-- A readable value is read back from its characters, whatever follows them. -/
theorem readValue_write (separates : layout.Separates) :
    ∀ (value : Json) {fuel depth : Nat} {rest : Text}, IsReadable depth value →
      (write layout value).length ≤ fuel + 1 → EndsNumber rest →
      readValue (fuel + 1) depth (Text.ofChars (write layout value) ++ rest) =
        .ok (joined value, rest)
  | .null, _, _, _, _, _, _ => by
      rw [write, joined]
      rfl
  | .bool true, _, _, _, _, _, _ => by
      rw [write, joined]
      rfl
  | .bool false, _, _, _, _, _, _ => by
      rw [write, joined]
      rfl
  | .int value, fuel, depth, rest, readable, _, ends => by
      rw [IsReadable] at readable
      rw [write, joined]
      exact readValue_int fuel depth readable ends
  | .float value, fuel, depth, rest, readable, _, ends => by
      rw [IsReadable] at readable
      rw [write, joined]
      exact readable.read fuel depth rest ends
  | .text content, fuel, depth, rest, _, _, _ => by
      rw [write, joined]
      exact readValue_text fuel depth content rest
  | .array _, _, 0, _, readable, _, _ => by
      rw [IsReadable] at readable
      exact readable.elim
  | .array [], _, depth + 1, _, _, _, _ => by
      rw [write, joined, joinedItems]
      rfl
  | .array (item :: others), fuel, depth + 1, rest, readable, enough, _ => by
      rw [IsReadable] at readable
      have itemReadable := readable
      rw [AllReadable] at itemReadable
      obtain ⟨first, later, begins, notSpace, notClosing, -⟩ :=
        write_begins layout itemReadable.1
      rw [write, List.length_append, List.length_cons, Nat.add_right_comm] at enough
      have items : readItems fuel depth []
          (Text.ofChars (write layout item) ++ (Text.ofChars (writeItems layout others) ++ rest)) =
            .ok (.array (joinedItems (item :: others)), rest) :=
        readItems_write separates item others readable
          (by rw [List.length_append]; exact Nat.le_of_succ_le_succ enough)
      rw [write, joined, List.cons_append, Text.ofChars_cons, Text.ofChars_append,
        List.cons_append, List.append_assoc, readValue]
      rw [begins, Text.ofChars_cons, List.cons_append] at items ⊢
      rw [skipSpace_of_begins notSpace]
      split
      · next isClosing =>
          exact absurd (Text.CodePoint.char_injective (List.cons.inj isClosing).1) notClosing
      · exact items
  | .object _, _, 0, _, readable, _, _ => by
      rw [IsReadable] at readable
      exact readable.elim
  | .object [], _, depth + 1, _, _, _, _ => by
      rw [write, joined, joinedMembers]
      rfl
  | .object ((name, value) :: others), fuel, depth + 1, rest, readable, enough, _ => by
      rw [IsReadable] at readable
      obtain ⟨distinct, membersReadable⟩ := readable
      rw [write, List.length_append, List.length_cons, Nat.add_right_comm] at enough
      have members : readMembers fuel depth []
          (Text.ofChars (writeMember layout (name, value)) ++
            (Text.ofChars (writeMembers layout others) ++ rest)) =
            .ok (.object (joinedMembers ((name, value) :: others)), rest) :=
        readMembers_write separates name value others membersReadable distinct
          (by rw [List.length_append]; exact Nat.le_of_succ_le_succ enough)
      rw [write, joined, List.cons_append, Text.ofChars_cons, Text.ofChars_append,
        List.cons_append, List.append_assoc, readValue]
      rw [ofChars_writeMember_append] at members ⊢
      rw [skipSpace_of_begins (by decide)]
      exact members
termination_by value => sizeOf value

/-- The items of an array that are left to read are read and closed. -/
theorem readItems_write (separates : layout.Separates) (item : Json) (others : List Json)
    {fuel depth : Nat} {read : List Json} {rest : Text}
    (readable : AllReadable depth (item :: others))
    (enough : (write layout item ++ writeItems layout others).length ≤ fuel) :
    readItems fuel depth read
        (Text.ofChars (write layout item) ++ (Text.ofChars (writeItems layout others) ++ rest)) =
      .ok (.array (read.reverse ++ joinedItems (item :: others)), rest) := by
  rw [AllReadable] at readable
  obtain ⟨itemReadable, othersReadable⟩ := readable
  have positive := List.length_pos_iff.mpr (write_ne_nil layout itemReadable)
  rw [List.length_append] at enough
  have closing : 0 < (writeItems layout others).length :=
    length_writeItems_pos separates others
  obtain ⟨fuel, rfl⟩ : ∃ less, fuel = less + 2 := ⟨fuel - 2, by omega⟩
  rw [readItems, readValue_write separates item itemReadable (by omega)
    (endsNumber_writeItems separates others rest), joinedItems]
  match isOthers : others with
  | [] =>
      rw [writeItems, Text.ofChars_cons, List.cons_append, Text.ofChars_nil, List.nil_append]
      simp only [skipSpace_of_begins (show isSpace ']' = false by decide)]
      rw [joinedItems, List.reverse_cons]
  | next :: later =>
      have nextReadable := othersReadable
      rw [AllReadable] at nextReadable
      obtain ⟨blanks, isComma, isNext⟩ :=
        skipSpace_writeItems separates nextReadable.1 later rest
      have shorter : (write layout next ++ writeItems layout later).length ≤ fuel + 1 := by
        obtain ⟨count, isSeparator⟩ := separates.item
        rw [writeItems, isSeparator] at enough
        simp only [List.length_append, List.length_cons] at enough ⊢
        omega
      simp only [isComma, isNext]
      rw [readItems_write separates next later othersReadable shorter]
      simp
termination_by sizeOf (item :: others)

/-- The members of an object that are left to read are read and closed. -/
theorem readMembers_write (separates : layout.Separates) (name : Text) (value : Json)
    (others : List (Text × Json)) {fuel depth : Nat} {read : List (Text × Json)}
    {rest : Text} (readable : AllMembersReadable depth ((name, value) :: others))
    (distinct : (read.map Prod.fst ++ joinedNames ((name, value) :: others)).Nodup)
    (enough : (writeMember layout (name, value) ++ writeMembers layout others).length ≤ fuel) :
    readMembers fuel depth read
        (Text.ofChars (writeMember layout (name, value)) ++
          (Text.ofChars (writeMembers layout others) ++ rest)) =
      .ok (.object (read ++ joinedMembers ((name, value) :: others)), rest) := by
  rw [AllMembersReadable, MemberReadable] at readable
  obtain ⟨valueReadable, othersReadable⟩ := readable
  have quotes : 0 < (writeText name).length := by simp [writeText]
  rw [writeMember, List.length_append, List.length_append, List.length_append] at enough
  have closing : 0 < (writeMembers layout others).length :=
    length_writeMembers_pos separates others
  obtain ⟨fuel, rfl⟩ : ∃ less, fuel = less + 2 := ⟨fuel - 2, by omega⟩
  obtain ⟨blanks, isColon, isValue⟩ := skipSpace_nameSeparator separates valueReadable
    (Text.ofChars (writeMembers layout others) ++ rest)
  have fresh : name.join ∉ read.map Prod.fst := by
    intro taken
    exact (List.nodup_append.mp distinct).2.2 name.join taken name.join List.mem_cons_self rfl
  rw [ofChars_writeMember_append, readMembers, readText?_writeCodePoints]
  simp only [List.reverse_nil, List.nil_append, pendingText, isColon, isValue]
  rw [readValue_write separates value valueReadable (by omega)
    (endsNumber_writeMembers separates others rest), joinedMembers, joinedMember]
  simp only [setMember_of_notMem fresh]
  match isOthers : others with
  | [] =>
      rw [writeMembers, Text.ofChars_cons, List.cons_append, Text.ofChars_nil, List.nil_append]
      simp only [skipSpace_of_begins (show isSpace '}' = false by decide)]
      rw [joinedMembers]
  | (nextName, nextValue) :: later =>
      obtain ⟨moreBlanks, isComma, isNext⟩ :=
        skipSpace_writeMembers separates (nextName, nextValue) later rest
      have shorter : (writeMember layout (nextName, nextValue) ++
          writeMembers layout later).length ≤ fuel + 1 := by
        obtain ⟨count, isSeparator⟩ := separates.item
        rw [writeMembers, isSeparator] at enough
        simp only [List.length_append, List.length_cons] at enough ⊢
        omega
      have stillDistinct : ((read ++ [(name.join, joined value)]).map Prod.fst ++
          joinedNames ((nextName, nextValue) :: later)).Nodup := by
        rw [List.map_append, List.append_assoc]
        exact distinct
      simp only [isComma, isNext]
      rw [readMembers_write separates nextName nextValue later othersReadable stillDistinct
        shorter, List.append_assoc]
      rfl
termination_by sizeOf ((name, value) :: others)
decreasing_by
  · simp only [List.cons.sizeOf_spec, Prod.mk.sizeOf_spec]
    omega
  · simp only [isOthers, List.cons.sizeOf_spec, Prod.mk.sizeOf_spec]
    omega

end

/-- A value that is readable within a depth is read back from its whole text. -/
theorem read_write (separates : layout.Separates) {depth : Nat} {value : Json}
    (readable : IsReadable depth value) :
    read depth (Text.ofChars (write layout value)) = .ok (joined value) := by
  obtain ⟨first, others, begins, notSpace, -⟩ := write_begins layout readable
  have isRead : readValue (2 * (Text.ofChars (write layout value)).length + 2) depth
      (Text.ofChars (write layout value) ++ []) = .ok (joined value, []) := by
    rw [Text.length_ofChars]
    exact readValue_write separates value readable (by omega) endsNumber_nil
  rw [List.append_nil] at isRead
  have trimmed : skipSpace (Text.ofChars (write layout value)) =
      Text.ofChars (write layout value) := by
    rw [begins, Text.ofChars_cons, skipSpace_of_begins notSpace]
  unfold read
  rw [trimmed, isRead]
  rfl

/-! ### Printable characters -/

theorem isPrintable_of_isDigit {character : Char} (isDigit : character.isDigit = true) :
    IsPrintable character := by
  unfold Char.isDigit at isDigit
  rw [Bool.and_eq_true, decide_eq_true_eq, decide_eq_true_eq] at isDigit
  obtain ⟨atLeast, atMost⟩ := isDigit
  exact ⟨Nat.le_trans (by decide) (UInt32.le_iff_toNat_le.mp atLeast),
    Nat.lt_of_le_of_lt (UInt32.le_iff_toNat_le.mp atMost) (by decide)⟩

theorem isPrintable_of_mem_writeInt {value : Int} {character : Char}
    (membership : character ∈ writeInt value) : IsPrintable character := by
  rcases Int.lt_or_le value 0 with negative | nonnegative
  · rw [writeInt_of_neg negative] at membership
    rcases List.mem_cons.mp membership with rfl | inDigits
    · decide
    · exact isPrintable_of_isDigit (isDigit_of_mem_digitsOf inDigits)
  · rw [writeInt_of_nonneg nonnegative] at membership
    exact isPrintable_of_isDigit (isDigit_of_mem_digitsOf membership)

theorem isPrintable_of_mem_separator {separator : List Char} {mark : Char} {count : Nat}
    (isSeparator : separator = mark :: List.replicate count ' ') (printable : IsPrintable mark)
    {character : Char} (membership : character ∈ separator) : IsPrintable character := by
  rw [isSeparator, List.mem_cons] at membership
  rcases membership with rfl | isBlank
  · exact printable
  · rw [List.eq_of_mem_replicate isBlank]
    decide

theorem isDigit_of_mem_exponentDigits {exponent : Nat} {character : Char}
    (membership : character ∈ Binary64.exponentDigits exponent) : character.isDigit = true := by
  unfold Binary64.exponentDigits at membership
  simp only at membership
  split at membership
  · rcases List.mem_cons.mp membership with rfl | inDigits
    · rfl
    · exact isDigit_of_mem_digitsOf inDigits
  · exact isDigit_of_mem_digitsOf membership

/-- Digits that are printable are laid out in printable characters. -/
theorem isPrintable_of_mem_characters {decimal : Binary64.Decimal}
    (digits : ∀ character ∈ decimal.digits, IsPrintable character) {character : Char}
    (membership : character ∈ decimal.characters) : IsPrintable character := by
  have zeros : ∀ {count : Nat}, character ∈ List.replicate count '0' → IsPrintable character := by
    intro count isZero
    rw [List.eq_of_mem_replicate isZero]
    decide
  have front : ∀ {count : Nat}, character ∈ decimal.digits.take count → IsPrintable character :=
    fun inFront => digits character (List.mem_of_mem_take inFront)
  have later : ∀ {count : Nat}, character ∈ decimal.digits.drop count → IsPrintable character :=
    fun inRest => digits character (List.mem_of_mem_drop inRest)
  unfold Binary64.Decimal.characters at membership
  simp only at membership
  split at membership
  · split at membership
    · rcases List.mem_cons.mp membership with rfl | membership
      · decide
      · rcases List.mem_cons.mp membership with rfl | membership
        · decide
        · exact (List.mem_append.mp membership).elim zeros (digits character)
    · split at membership
      · rcases List.mem_append.mp membership with inWhole | inFraction
        · exact (List.mem_append.mp inWhole).elim (digits character) zeros
        · exact isPrintable_of_mem (by decide) inFraction
      · rcases List.mem_append.mp membership with inWhole | inFraction
        · exact front inWhole
        · rcases List.mem_cons.mp inFraction with rfl | inDigits
          · decide
          · exact later inDigits
  · rcases List.mem_append.mp membership with inNumber | inExponent
    · rcases List.mem_append.mp inNumber with inWhole | inFraction
      · exact front inWhole
      · split at inFraction
        · cases inFraction
        · rcases List.mem_cons.mp inFraction with rfl | inDigits
          · decide
          · exact later inDigits
    · rcases List.mem_cons.mp inExponent with rfl | inRest
      · decide
      · rcases List.mem_cons.mp inRest with isSign | inDigits
        · rw [isSign]
          split <;> decide
        · exact isPrintable_of_isDigit (isDigit_of_mem_exponentDigits inDigits)

theorem shortest_eq {units value : Nat} {exponent : Int} (positive : 0 < units)
    (isScaled : Binary64.shortestScaled units = (value, exponent)) :
    Binary64.shortest units =
      ⟨Binary64.dropTrailingZeros (digitsOf value), exponent + (digitsOf value).length⟩ := by
  unfold Binary64.shortest
  rw [if_neg (Nat.ne_of_gt positive), isScaled]
  rfl

theorem mem_of_mem_dropTrailingZeros {digits : List Char} {character : Char}
    (membership : character ∈ Binary64.dropTrailingZeros digits) : character ∈ digits := by
  unfold Binary64.dropTrailingZeros at membership
  exact List.mem_reverse.mp
    ((List.dropWhile_suffix _).subset (List.mem_reverse.mp membership))

theorem isPrintable_of_mem_digits_shortest {units : Nat} {character : Char}
    (membership : character ∈ (Binary64.shortest units).digits) : IsPrintable character := by
  rcases Nat.eq_zero_or_pos units with rfl | positive
  · rw [List.mem_singleton.mp membership]
    decide
  · obtain ⟨⟨value, exponent⟩, isScaled⟩ :
        ∃ decimal, Binary64.shortestScaled units = decimal := ⟨_, rfl⟩
    rw [shortest_eq positive isScaled] at membership
    exact isPrintable_of_isDigit
      (isDigit_of_mem_digitsOf (mem_of_mem_dropTrailingZeros membership))

theorem isPrintable_of_mem_textWith {value : Binary64} {character : Char}
    (membership : character ∈ (value.textWith specialTexts).toList) : IsPrintable character := by
  cases value with
  | finite negative units =>
      rw [Binary64.textWith, String.toList_ofList] at membership
      rcases List.mem_append.mp membership with inSign | inDigits
      · split at inSign
        · rw [List.mem_singleton.mp inSign]
          decide
        · cases inSign
      · exact isPrintable_of_mem_characters (fun _ => isPrintable_of_mem_digits_shortest) inDigits
  | infinite negative =>
      cases negative with
      | false => exact isPrintable_of_mem (by decide) membership
      | true => exact isPrintable_of_mem (by decide) membership
  | notANumber negative =>
      rw [Binary64.textWith] at membership
      exact isPrintable_of_mem (by decide) membership

mutual

/-- Every value is written in printable ASCII. -/
theorem isPrintable_of_mem_write (separates : layout.Separates) :
    ∀ (value : Json), ∀ character ∈ write layout value, IsPrintable character
  | .null, character, membership => by
      rw [write] at membership
      exact isPrintable_of_mem (by decide) membership
  | .bool true, character, membership => by
      rw [write] at membership
      exact isPrintable_of_mem (by decide) membership
  | .bool false, character, membership => by
      rw [write] at membership
      exact isPrintable_of_mem (by decide) membership
  | .int value, character, membership => by
      rw [write] at membership
      exact isPrintable_of_mem_writeInt membership
  | .float value, character, membership => by
      rw [write] at membership
      exact isPrintable_of_mem_textWith membership
  | .text content, character, membership => by
      rw [write] at membership
      exact isPrintable_of_mem_writeText membership
  | .array [], character, membership => by
      rw [write] at membership
      exact isPrintable_of_mem (by decide) membership
  | .array (item :: others), character, membership => by
      rw [write, List.mem_append, List.mem_cons] at membership
      rcases membership with (rfl | inItem) | inOthers
      · decide
      · exact isPrintable_of_mem_write separates item character inItem
      · exact isPrintable_of_mem_writeItems separates others character inOthers
  | .object [], character, membership => by
      rw [write] at membership
      exact isPrintable_of_mem (by decide) membership
  | .object ((name, value) :: others), character, membership => by
      rw [write, writeMember, List.mem_append, List.mem_cons, List.mem_append,
        List.mem_append] at membership
      rcases membership with (rfl | (inName | inSeparator) | inValue) | inOthers
      · decide
      · exact isPrintable_of_mem_writeText inName
      · obtain ⟨count, isColon⟩ := separates.name
        exact isPrintable_of_mem_separator isColon (by decide) inSeparator
      · exact isPrintable_of_mem_write separates value character inValue
      · exact isPrintable_of_mem_writeMembers separates others character inOthers
termination_by value => sizeOf value

theorem isPrintable_of_mem_writeItems (separates : layout.Separates) :
    ∀ (items : List Json), ∀ character ∈ writeItems layout items, IsPrintable character
  | [], character, membership => by
      rw [writeItems] at membership
      exact isPrintable_of_mem (by decide) membership
  | item :: others, character, membership => by
      rw [writeItems, List.mem_append, List.mem_append] at membership
      rcases membership with (inSeparator | inItem) | inOthers
      · obtain ⟨count, isComma⟩ := separates.item
        exact isPrintable_of_mem_separator isComma (by decide) inSeparator
      · exact isPrintable_of_mem_write separates item character inItem
      · exact isPrintable_of_mem_writeItems separates others character inOthers
termination_by items => sizeOf items

theorem isPrintable_of_mem_writeMembers (separates : layout.Separates) :
    ∀ (members : List (Text × Json)), ∀ character ∈ writeMembers layout members,
      IsPrintable character
  | [], character, membership => by
      rw [writeMembers] at membership
      exact isPrintable_of_mem (by decide) membership
  | (name, value) :: others, character, membership => by
      rw [writeMembers, writeMember, List.mem_append, List.mem_append, List.mem_append,
        List.mem_append] at membership
      rcases membership with (inComma | (inName | inColon) | inValue) | inOthers
      · obtain ⟨count, isComma⟩ := separates.item
        exact isPrintable_of_mem_separator isComma (by decide) inComma
      · exact isPrintable_of_mem_writeText inName
      · obtain ⟨count, isColon⟩ := separates.name
        exact isPrintable_of_mem_separator isColon (by decide) inColon
      · exact isPrintable_of_mem_write separates value character inValue
      · exact isPrintable_of_mem_writeMembers separates others character inOthers
termination_by members => sizeOf members

end

end TokenAuthority.Json
