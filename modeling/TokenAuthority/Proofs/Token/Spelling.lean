import TokenAuthority.Proofs.Json.Text
import TokenAuthority.Proofs.Number.Hexadecimal
import TokenAuthority.Proofs.Token.Id

/-!
The spellings of token identifiers.

What a text spells, if anything, is told by the rules for numerals, for the characters that are left
without marks, outer braces and dashes.  An identifier is read from a text exactly if the text
spells its number, so that all spellings of one number are read as one identifier.

The canonical text is a spelling without marks and braces.  So every identifier is read back from
its text, and the texts of identifiers are exactly the canonical ones.
-/

namespace TokenAuthority

/-- The digits that are written for a number are read as digits that make it up. -/
theorem Text.exists_digits_of_hexDigits (count value : Nat) :
    ∃ digits : List Nat,
      (hexDigits count value).map (Numeral.digitBelow? 16) = digits.map some ∧
        digits.length = count ∧ Nat.ofDigits 16 digits.reverse = value % 16 ^ count := by
  induction count generalizing value with
  | zero => exact ⟨[], rfl, rfl, by simp [Nat.mod_one]⟩
  | succ count inductionHypothesis =>
      obtain ⟨digits, areDigits, enough, makeUp⟩ := inductionHypothesis (value / 16)
      have isDigit : Numeral.digitBelow? 16 (hexDigit (value % 16)) = some (value % 16) := by
        have small : value % 16 < 16 := Nat.mod_lt _ (by decide)
        unfold Numeral.digitBelow?
        rw [Json.radixDigit?_hexDigit small]
        simp [small]
      refine ⟨digits ++ [value % 16], ?_, by simp [enough], ?_⟩
      · rw [hexDigits, List.map_append, List.map_append, areDigits, List.map_singleton, isDigit,
          List.map_singleton]
      · rw [List.reverse_append, List.reverse_singleton, List.singleton_append, Nat.ofDigits_cons,
          makeUp, Nat.pow_succ', Nat.mod_mul]

namespace TokenId

/-- Whether a string is a spelling of a number: 32 of its characters write the number. -/
def Spells (text : String) (value : Int) : Prop :=
  (spelling text).length = 32 ∧
    ∃ characters, (spelling text).mapM Numeral.normalize? = some characters ∧
      Numeral.Written characters value

theorem ofInt?_eq_some_iff {value : Int} {id : TokenId} :
    ofInt? value = some id ↔ value = id.value := by
  unfold ofInt?
  constructor
  · intro made
    split at made
    · next bounded =>
        rw [← Option.some.inj made]
        exact (Int.toNat_of_nonneg bounded.1).symm
    · cases made
  · rintro rfl
    have bounded : 0 ≤ (id.value : Int) ∧ (id.value : Int).toNat < tokenIdLimit :=
      ⟨Int.natCast_nonneg _, by simpa using id.value_lt⟩
    rw [dif_pos bounded]
    simp

theorem spells_iff {text : String} {value : Int} :
    Spells text value ↔ (spelling text).length = 32 ∧
      Numeral.parse? 16 (String.ofList (spelling text)) = some value := by
  rw [Numeral.parse?_eq_some_iff, String.toList_ofList]
  rfl

/-- An identifier is read from the texts that spell its number. -/
theorem parse?_eq_some_iff {text : String} {id : TokenId} :
    parse? text = some id ↔ Spells text id.value := by
  rw [spells_iff]
  unfold parse?
  simp only
  by_cases enough : (spelling text).length = 32
  · simp [enough, Option.bind_eq_some_iff, ofInt?_eq_some_iff]
  · simp [enough]

/-- Whether a text denotes a number: it holds no surrogates and spells that number. -/
def Denotes (text : Text) (value : Int) : Prop :=
  ∃ string : String, text = string ∧ Spells string value

theorem denotes_ofString_iff {string : String} {value : Int} :
    Denotes string value ↔ Spells string value := by
  constructor
  · rintro ⟨other, same, spelled⟩
    rwa [Text.ofString_injective same]
  · intro spelled
    exact ⟨string, rfl, spelled⟩

/-- An identifier is read from the texts that denote its number. -/
theorem ofText?_eq_some_iff {text : Text} {id : TokenId} :
    ofText? text = some id ↔ Denotes text id.value := by
  simp only [ofText?, Denotes, Option.bind_eq_some_iff, Text.string?_eq_some_iff,
    parse?_eq_some_iff]

/-- A text denotes one number at most. -/
theorem Denotes.unique {text : Text} {value other : Int} (denoted : Denotes text value)
    (alsoDenoted : Denotes text other) : value = other := by
  obtain ⟨string, rfl, spelled⟩ := denoted
  have alsoSpelled := denotes_ofString_iff.mp alsoDenoted
  exact Option.some.inj ((spells_iff.mp spelled).2.symm.trans (spells_iff.mp alsoSpelled).2)

theorem Denotes.eq {text : Text} {first second : TokenId} (denoted : Denotes text first.value)
    (alsoDenoted : Denotes text second.value) : first = second :=
  Option.some.inj
    ((ofText?_eq_some_iff.mpr denoted).symm.trans (ofText?_eq_some_iff.mpr alsoDenoted))

/-! ### Decorated spellings -/

theorem removeLoop_eq_self {mark characters : List Char} {character : Char}
    (inMark : character ∈ mark) (absent : character ∉ characters) :
    removeLoop mark 0 characters = characters := by
  induction characters with
  | nil => rfl
  | cons first rest inductionHypothesis =>
      have noPrefix : ¬ mark.isPrefixOf (first :: rest) = true := by
        intro isPrefix
        exact absent ((List.isPrefixOf_iff_prefix.mp isPrefix).subset inMark)
      rw [removeLoop, if_neg noPrefix,
        inductionHypothesis fun membership => absent (List.mem_cons_of_mem _ membership)]

/-- The marks that a spelling may begin with. -/
def leadingMarks : List String :=
  ["", "urn:", "uuid:", "urn:uuid:"]

theorem removeLoop_leadingMark {mark : String} (isMark : mark ∈ leadingMarks)
    {characters : List Char} (noColon : ':' ∉ characters) :
    removeLoop "uuid:".toList 0 (removeLoop "urn:".toList 0 (mark.toList ++ characters)) =
      characters := by
  have urnKept : removeLoop "urn:".toList 0 characters = characters :=
    removeLoop_eq_self (by decide) noColon
  have uuidKept : removeLoop "uuid:".toList 0 characters = characters :=
    removeLoop_eq_self (by decide) noColon
  have urnRemoved : removeLoop "urn:".toList 0 ("urn:".toList ++ characters) =
      removeLoop "urn:".toList 0 characters := rfl
  have uuidRemoved : removeLoop "uuid:".toList 0 ("uuid:".toList ++ characters) =
      removeLoop "uuid:".toList 0 characters := rfl
  have uuidPassed : removeLoop "urn:".toList 0 ("uuid:".toList ++ characters) =
      "uuid:".toList ++ removeLoop "urn:".toList 0 characters := rfl
  have bothRemoved : removeLoop "urn:".toList 0 ("urn:uuid:".toList ++ characters) =
      "uuid:".toList ++ removeLoop "urn:".toList 0 characters := rfl
  simp only [leadingMarks, List.mem_cons, List.not_mem_nil, or_false] at isMark
  rcases isMark with rfl | rfl | rfl | rfl
  · rw [String.toList_empty, List.nil_append, urnKept, uuidKept]
  · rw [urnRemoved, urnKept, uuidKept]
  · rw [uuidPassed, urnKept, uuidRemoved, uuidKept]
  · rw [bothRemoved, urnKept, uuidRemoved, uuidKept]

section Decorated

variable {opening body closing : List Char} {digits : List Nat}
  (areBraces : ∀ character ∈ opening ++ closing, character = '\x7b' ∨ character = '\x7d')
  (areDigits : (body.filter (· ≠ '-')).map (Numeral.digitBelow? 16) = digits.map some)

include areDigits in
theorem of_mem_body {character : Char} (membership : character ∈ body) :
    character = '-' ∨ (Numeral.digitBelow? 16 character).isSome = true := by
  by_cases dash : character = '-'
  · exact .inl dash
  · have inDigits : Numeral.digitBelow? 16 character ∈ digits.map some := by
      rw [← areDigits]
      exact List.mem_map_of_mem (List.mem_filter.mpr ⟨membership, by simpa using dash⟩)
    obtain ⟨digit, -, isDigit⟩ := List.mem_map.mp inDigits
    exact .inr (by rw [← isDigit, Option.isSome_some])

include areBraces areDigits in
theorem spelling_decorated {mark : String} (isMark : mark ∈ leadingMarks) :
    spelling (mark ++ String.ofList (opening ++ body ++ closing)) = body.filter (· ≠ '-') := by
  have noColon : ':' ∉ opening ++ body ++ closing := by
    intro membership
    rw [List.append_assoc, List.mem_append, List.mem_append] at membership
    rcases membership with inOpening | inBody | inClosing
    · exact absurd (areBraces ':' (List.mem_append_left _ inOpening)) (by decide)
    · exact absurd (of_mem_body areDigits inBody) (by decide)
    · exact absurd (areBraces ':' (List.mem_append_right _ inClosing)) (by decide)
  have outerBraces : ∀ character ∈ opening ++ closing,
      (character == '\x7b' || character == '\x7d') = true := by
    intro character membership
    rcases areBraces character membership with rfl | rfl <;> rfl
  have noBrace : ∀ character ∈ body, (character == '\x7b' || character == '\x7d') = false := by
    intro character membership
    apply Bool.eq_false_iff.mpr
    intro isBrace
    rw [Bool.or_eq_true, beq_iff_eq, beq_iff_eq] at isBrace
    rcases isBrace with rfl | rfl
    · exact absurd (of_mem_body areDigits membership) (by decide)
    · exact absurd (of_mem_body areDigits membership) (by decide)
  unfold spelling
  simp only [String.toList_append, String.toList_ofList]
  rw [removeLoop_leadingMark isMark noColon, Text.stripWhile_append_append outerBraces noBrace]

include areBraces areDigits in
/-- Digits of either case spell a number behind a mark, in braces and with dashes anywhere between
them, or without any of these. -/
theorem spells_decorated {mark : String} (isMark : mark ∈ leadingMarks)
    (enough : digits.length = 32) :
    Spells (mark ++ String.ofList (opening ++ body ++ closing))
      (Nat.ofDigits 16 digits.reverse : Nat) := by
  have written : Numeral.Digits 16 (body.filter (· ≠ '-')) digits :=
    Numeral.digits_of_map_eq areDigits (List.ne_nil_of_length_pos (by omega))
  have count : (body.filter (· ≠ '-')).length = 32 := by
    rw [← enough, ← List.length_map (Numeral.digitBelow? 16), areDigits, List.length_map]
  unfold Spells
  rw [spelling_decorated areBraces areDigits isMark]
  exact ⟨count, _, Numeral.mapM_normalize?_of_digits written, Numeral.written_of_digits written⟩

end Decorated

/-- Capitals, braces, marks and dashes in other places make no difference. -/
example : parse? "urn:uuid:\x7b0123456789ABCDEF-0123456789abcdef\x7d" =
    parse? "01234567-89ab-cdef-0123-456789abcdef" := by
  decide

/-! ### Canonical spellings -/

/-- The canonical characters of an identifier spell its number. -/
theorem spells_characters (id : TokenId) :
    Spells (String.ofList (characters id.value)) id.value := by
  obtain ⟨digits, areDigits, enough, makeUp⟩ := Text.exists_digits_of_hexDigits 32 id.value
  rw [← filter_characters] at areDigits
  rw [Nat.mod_eq_of_lt (show id.value < 16 ^ 32 from id.value_lt)] at makeUp
  have spelled := @spells_decorated [] (characters id.value) [] digits (by simp) areDigits ""
    (by decide) enough
  rwa [makeUp, List.nil_append, List.append_nil, String.empty_append] at spelled

/-- Every identifier is read back from its canonical text. -/
theorem ofText?_text (id : TokenId) : ofText? id.text = some id := by
  rw [ofText?_eq_some_iff, text, ← Text.ofString_ofList, denotes_ofString_iff]
  exact spells_characters id

theorem join_of_ofText? {text : Text} {id : TokenId} (spelled : ofText? text = some id) :
    text.join = text := by
  obtain ⟨string, rfl, -⟩ := ofText?_eq_some_iff.mp spelled
  exact Text.join_ofString string

theorem text_ne_nil (id : TokenId) : id.text ≠ [] :=
  ((StoreKey.isPart_iff _).mp (isPart_text id)).1

theorem isCanonical_text (id : TokenId) : isCanonical id.text = true := by
  unfold isCanonical
  rw [ofText?_text]
  exact beq_self_eq_true _

end TokenId

end TokenAuthority
