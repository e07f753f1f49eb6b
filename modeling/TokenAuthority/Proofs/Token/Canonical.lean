import Mathlib.Data.List.Induction
import TokenAuthority.Proofs.Service.Call
import TokenAuthority.Proofs.Token.Spelling

/-!
The canonical form of token identifiers.

A text is canonical exactly if it consists of groups of 8, 4, 4, 4 and 12 lower-case hexadecimal
digits with dashes between them.  Any digits are those of some number, so a text of this form is the
text of an identifier, whatever else a lenient reader makes of it.
-/

namespace TokenAuthority

namespace Text

/-- Whether a character is a lower-case hexadecimal digit. -/
def IsLowerHex (character : Char) : Prop :=
  ('0' ≤ character ∧ character ≤ '9') ∨ ('a' ≤ character ∧ character ≤ 'f')

instance (character : Char) : Decidable (IsLowerHex character) :=
  inferInstanceAs (Decidable (('0' ≤ character ∧ character ≤ '9') ∨
    ('a' ≤ character ∧ character ≤ 'f')))

theorem isLowerHex_hexDigit {digit : Nat} (small : digit < 16) : IsLowerHex (hexDigit digit) := by
  have checked : ∀ value < 16, IsLowerHex (hexDigit value) := by decide
  exact checked digit small

theorem exists_hexDigit_eq {character : Char} (isHex : IsLowerHex character) :
    ∃ digit < 16, hexDigit digit = character := by
  rcases isHex with ⟨low, high⟩ | ⟨low, high⟩
  · have atLeast : 48 ≤ character.toNat := low
    have atMost : character.toNat ≤ 57 := high
    refine ⟨character.toNat - 48, by omega, ?_⟩
    unfold hexDigit
    rw [if_pos (by omega), Nat.add_sub_cancel' atLeast, Char.ofNat_toNat]
  · have atLeast : 97 ≤ character.toNat := low
    have atMost : character.toNat ≤ 102 := high
    refine ⟨character.toNat - 87, by omega, ?_⟩
    unfold hexDigit
    rw [if_neg (by omega), Nat.add_sub_cancel' (by omega), Char.ofNat_toNat]

/-- Any digits are those of a number that has no more of them. -/
theorem exists_hexDigits_eq {characters : List Char}
    (areHex : ∀ character ∈ characters, IsLowerHex character) :
    ∃ value < 16 ^ characters.length, hexDigits characters.length value = characters := by
  induction characters using List.reverseRecOn with
  | nil => exact ⟨0, by decide, rfl⟩
  | append_singleton higher lowest inductionHypothesis =>
      have higherHex : ∀ character ∈ higher, IsLowerHex character :=
        fun character membership => areHex character (List.mem_append_left _ membership)
      obtain ⟨value, bounded, digits⟩ := inductionHypothesis higherHex
      obtain ⟨digit, small, rfl⟩ := exists_hexDigit_eq (areHex lowest (by simp))
      refine ⟨value * 16 + digit, ?_, ?_⟩
      · rw [List.length_append, List.length_singleton, Nat.pow_succ]
        omega
      · have quotient : (value * 16 + digit) / 16 = value := by omega
        have remainder : (value * 16 + digit) % 16 = digit := by omega
        rw [List.length_append, List.length_singleton, hexDigits, quotient, remainder, digits]

end Text

namespace TokenId

/-- Whether a text is written in groups of lower-case hexadecimal digits as an identifier is. -/
def IsCanonicalForm (text : Text) : Prop :=
  ∃ groups : List (List Char), groups.map List.length = [8, 4, 4, 4, 12] ∧
    (∀ group ∈ groups, ∀ character ∈ group, Text.IsLowerHex character) ∧
    text = .ofChars (['-'].intercalate groups)

/-- The groups in which the digits of an identifier are written. -/
def groups (digits : List Char) : List (List Char) :=
  [digits.take 8, (digits.drop 8).take 4, (digits.drop 12).take 4, (digits.drop 16).take 4,
    digits.drop 20]

theorem characters_eq_intercalate (value : Nat) :
    characters value = ['-'].intercalate (groups (Text.hexDigits 32 value)) := by
  simp [characters, groups, List.intercalate, List.intersperse]

theorem length_groups {digits : List Char} (enough : digits.length = 32) :
    (groups digits).map List.length = [8, 4, 4, 4, 12] := by
  simp [groups, enough]

theorem mem_of_mem_groups {digits group : List Char} {character : Char}
    (isGroup : group ∈ groups digits) (membership : character ∈ group) : character ∈ digits := by
  simp only [groups, List.mem_cons, List.not_mem_nil, or_false] at isGroup
  rcases isGroup with rfl | rfl | rfl | rfl | rfl
  · exact List.mem_of_mem_take membership
  · exact List.mem_of_mem_drop (List.mem_of_mem_take membership)
  · exact List.mem_of_mem_drop (List.mem_of_mem_take membership)
  · exact List.mem_of_mem_drop (List.mem_of_mem_take membership)
  · exact List.mem_of_mem_drop membership

/-- Groups of the right lengths are those of the digits in them. -/
theorem groups_flatten {parts : List (List Char)}
    (lengths : parts.map List.length = [8, 4, 4, 4, 12]) : groups parts.flatten = parts := by
  obtain ⟨first, parts, rfl, firstLength, lengths⟩ := List.map_eq_cons_iff.mp lengths
  obtain ⟨second, parts, rfl, secondLength, lengths⟩ := List.map_eq_cons_iff.mp lengths
  obtain ⟨third, parts, rfl, thirdLength, lengths⟩ := List.map_eq_cons_iff.mp lengths
  obtain ⟨fourth, parts, rfl, fourthLength, lengths⟩ := List.map_eq_cons_iff.mp lengths
  obtain ⟨fifth, parts, rfl, -, lengths⟩ := List.map_eq_cons_iff.mp lengths
  obtain rfl := List.map_eq_nil_iff.mp lengths
  simp [groups, List.drop_append, List.drop_of_length_le, firstLength,
    secondLength, thirdLength, fourthLength]

theorem isCanonicalForm_text (id : TokenId) : IsCanonicalForm id.text := by
  refine ⟨groups (Text.hexDigits 32 id.value), length_groups (by simp), ?_, ?_⟩
  · intro group isGroup character membership
    obtain ⟨digit, small, rfl⟩ :=
      Text.exists_of_mem_hexDigits (mem_of_mem_groups isGroup membership)
    exact Text.isLowerHex_hexDigit small
  · rw [text, characters_eq_intercalate]

/-- A text of the canonical form is the text of the identifier that its digits spell. -/
theorem exists_text_of_isCanonicalForm {text : Text} (form : IsCanonicalForm text) :
    ∃ id : TokenId, id.text = text := by
  obtain ⟨parts, lengths, areHex, written⟩ := form
  have count : parts.flatten.length = 32 := by rw [List.length_flatten, lengths]; rfl
  have flatHex : ∀ character ∈ parts.flatten, Text.IsLowerHex character := by
    intro character membership
    obtain ⟨group, isGroup, inGroup⟩ := List.mem_flatten.mp membership
    exact areHex group isGroup character inGroup
  obtain ⟨value, bounded, digits⟩ := Text.exists_hexDigits_eq flatHex
  rw [count] at bounded digits
  refine ⟨⟨value, bounded⟩, ?_⟩
  rw [TokenId.text, characters_eq_intercalate, digits, groups_flatten lengths, written]

theorem isCanonical_iff (text : Text) : isCanonical text = true ↔ IsCanonicalForm text := by
  constructor
  · intro canonical
    obtain ⟨id, rfl⟩ := exists_text_of_isCanonical canonical
    exact isCanonicalForm_text id
  · intro form
    obtain ⟨id, rfl⟩ := exists_text_of_isCanonicalForm form
    exact isCanonical_text id

theorem length_text (id : TokenId) : id.text.length = 36 := by
  unfold text characters
  rw [Text.length_ofChars]
  simp only [List.length_append, List.length_cons, List.length_take, List.length_drop,
    Text.length_hexDigits]
  rfl

/-- A value is accepted as an identifier exactly if it is a text of 36 characters in the canonical
form.  Every identifier that is drawn is accepted, and no accepted text can be taken for a key. -/
theorem isCanonicalValue_iff_form :
    (∀ value, isCanonicalValue value = true ↔
        ∃ text, value = .text text ∧ text.length = 36 ∧ IsCanonicalForm text) ∧
      (∀ world : World, ∃ id after, Call.runIn Call.drawTokenId world = (.ok id, after) ∧
        isCanonicalValue (.text id.text) = true) ∧
      ∀ text, isCanonicalValue (.text text) = true → StoreKey.separator ∉ text := by
  refine ⟨?_, ?_, ?_⟩
  · intro value
    cases value with
    | text text =>
        show isCanonical text = true ↔ _
        constructor
        · intro canonical
          obtain ⟨id, rfl⟩ := exists_text_of_isCanonical canonical
          exact ⟨id.text, rfl, length_text id, isCanonicalForm_text id⟩
        · rintro ⟨other, same, -, form⟩
          obtain rfl := Json.text.inj same
          exact (isCanonical_iff text).mpr form
    | _ => simp [isCanonicalValue]
  · intro world
    refine ⟨world.ids.token world.tokensDrawn,
      { world with tokensDrawn := world.tokensDrawn + 1 }, rfl, ?_⟩
    exact isCanonical_text (world.ids.token world.tokensDrawn)
  · intro text canonical
    exact StoreKey.separator_notMem_of_isPart (isPart_of_isCanonical canonical)

/-- The canonical form is accepted, and the same identifier in capitals is not. -/
theorem sample_isCanonicalValue :
    isCanonicalValue (.text "01234567-89ab-cdef-0123-456789abcdef") = true ∧
      StoreKey.separator ∉ Text.ofString "01234567-89ab-cdef-0123-456789abcdef" ∧
      isCanonicalValue (.text "01234567-89AB-CDEF-0123-456789ABCDEF") = false := by
  obtain ⟨accepted, -, clear⟩ := isCanonicalValue_iff_form
  have form : IsCanonicalForm "01234567-89ab-cdef-0123-456789abcdef" :=
    ⟨["01234567", "89ab", "cdef", "0123", "456789abcdef"].map String.toList, by decide,
      by simp [Text.IsLowerHex], by decide⟩
  have isAccepted := (accepted _).mpr ⟨_, rfl, by decide, form⟩
  exact ⟨isAccepted, clear _ isAccepted, by decide +kernel⟩

end TokenId

end TokenAuthority
