import Mathlib.Algebra.Group.Nat.Defs
import TokenAuthority.Proofs.Store.Key
import TokenAuthority.Token.Id

/-!
Canonical texts of token identifiers.

Hexadecimal digits are neither dashes nor separators.  So the canonical text of an identifier is a
part of a key, and with its dashes taken out it spells the number, which makes it different for
different identifiers.
-/

namespace TokenAuthority

namespace Text

theorem hexDigit_injective {first second : Nat} (firstSmall : first < 16)
    (secondSmall : second < 16)
    (equal : hexDigit first = hexDigit second) : first = second := by
  have checked : ∀ left < 16, ∀ right < 16, hexDigit left = hexDigit right → left = right := by
    decide
  exact checked first firstSmall second secondSmall equal

theorem hexDigit_ne_mark {value : Nat} (small : value < 16) :
    hexDigit value ≠ '-' ∧ hexDigit value ≠ ':' := by
  have checked : ∀ digit < 16, hexDigit digit ≠ '-' ∧ hexDigit digit ≠ ':' := by decide
  exact checked value small

@[simp]
theorem length_hexDigits (count value : Nat) : (hexDigits count value).length = count := by
  induction count generalizing value with
  | zero => rfl
  | succ count inductionHypothesis => simp [hexDigits, inductionHypothesis]

theorem exists_of_mem_hexDigits {count value : Nat} {character : Char}
    (membership : character ∈ hexDigits count value) :
    ∃ digit < 16, character = hexDigit digit := by
  induction count generalizing value with
  | zero => simp [hexDigits] at membership
  | succ count inductionHypothesis =>
      rw [hexDigits, List.mem_append, List.mem_singleton] at membership
      rcases membership with higher | lowest
      · exact inductionHypothesis higher
      · exact ⟨value % 16, Nat.mod_lt _ (by decide), lowest⟩

/-- The digits of a number that has no more of them determine it. -/
theorem hexDigits_injective {count first second : Nat} (firstBounded : first < 16 ^ count)
    (secondBounded : second < 16 ^ count) (equal : hexDigits count first = hexDigits count second) :
    first = second := by
  induction count generalizing first second with
  | zero => omega
  | succ count inductionHypothesis =>
      rw [hexDigits, hexDigits] at equal
      obtain ⟨higher, lowest⟩ := List.append_inj equal (by simp)
      have quotients : first / 16 = second / 16 :=
        inductionHypothesis (Nat.div_lt_of_lt_mul (by rw [Nat.pow_succ] at firstBounded; omega))
          (Nat.div_lt_of_lt_mul (by rw [Nat.pow_succ] at secondBounded; omega)) higher
      have remainders : first % 16 = second % 16 :=
        hexDigit_injective (Nat.mod_lt _ (by decide)) (Nat.mod_lt _ (by decide))
          (List.head_eq_of_cons_eq lowest)
      omega

end Text

namespace TokenId

/-- The canonical characters are hexadecimal digits and dashes. -/
theorem exists_of_mem_characters {value : Nat} {character : Char}
    (membership : character ∈ characters value) :
    character = '-' ∨ ∃ digit < 16, character = Text.hexDigit digit := by
  have digitOf : ∀ {part : List Char}, part.Sublist (Text.hexDigits 32 value) → character ∈ part →
      ∃ digit < 16, character = Text.hexDigit digit :=
    fun sublist inPart => Text.exists_of_mem_hexDigits (sublist.subset inPart)
  simp only [characters, List.mem_append, List.mem_cons] at membership
  rcases membership with inPart | dash | inPart | dash | inPart | dash | inPart | dash | inPart
  · exact .inr (digitOf (List.take_sublist _ _) inPart)
  · exact .inl dash
  · exact .inr (digitOf ((List.take_sublist _ _).trans (List.drop_sublist _ _)) inPart)
  · exact .inl dash
  · exact .inr (digitOf ((List.take_sublist _ _).trans (List.drop_sublist _ _)) inPart)
  · exact .inl dash
  · exact .inr (digitOf ((List.take_sublist _ _).trans (List.drop_sublist _ _)) inPart)
  · exact .inl dash
  · exact .inr (digitOf (List.drop_sublist _ _) inPart)

/-- Without their dashes the canonical characters are the digits of the number. -/
theorem filter_characters (value : Nat) :
    (characters value).filter (· ≠ '-') = Text.hexDigits 32 value := by
  have kept : ∀ part : List Char, part.Sublist (Text.hexDigits 32 value) →
      part.filter (· ≠ '-') = part := by
    intro part sublist
    refine List.filter_eq_self.mpr fun character membership => ?_
    obtain ⟨digit, small, rfl⟩ := Text.exists_of_mem_hexDigits (sublist.subset membership)
    simpa using (Text.hexDigit_ne_mark small).1
  have middle : ∀ start, ((Text.hexDigits 32 value).drop start).take 4 |>.Sublist
      (Text.hexDigits 32 value) :=
    fun start => (List.take_sublist _ _).trans (List.drop_sublist _ _)
  simp only [characters, List.filter_append, List.filter_cons, ne_eq, not_true_eq_false,
    decide_false, Bool.false_eq_true, if_false]
  simp only [← ne_eq]
  rw [kept _ (List.take_sublist _ _), kept _ (middle 8), kept _ (middle 12), kept _ (middle 16),
    kept _ (List.drop_sublist _ _)]
  have joined : ∀ start, ((Text.hexDigits 32 value).drop start).take 4 ++
      (Text.hexDigits 32 value).drop (start + 4) = (Text.hexDigits 32 value).drop start := by
    intro start
    rw [← List.drop_drop, List.take_append_drop]
  rw [joined 16, joined 12, joined 8, List.take_append_drop]

theorem text_injective {first second : TokenId} (equal : first.text = second.text) :
    first = second := by
  rw [text, text] at equal
  have characters := Text.ofChars_injective equal
  have digits := congrArg (List.filter (· ≠ '-')) characters
  rw [filter_characters, filter_characters] at digits
  have values := Text.hexDigits_injective
    (by simpa [tokenIdLimit] using first.value_lt) (by simpa [tokenIdLimit] using second.value_lt)
    digits
  cases first
  cases second
  simpa using values

@[simp]
theorem text_inj {first second : TokenId} : first.text = second.text ↔ first = second :=
  ⟨text_injective, congrArg text⟩

@[simp]
theorem isPart_text (id : TokenId) : StoreKey.isPart id.text = true := by
  rw [StoreKey.isPart_iff, text]
  constructor
  · simp [characters]
  · intro membership
    obtain ⟨character, isIn, isSeparator⟩ := List.mem_map.mp membership
    cases isSeparator
    rcases exists_of_mem_characters isIn with dash | ⟨digit, small, equal⟩
    · exact absurd dash (by decide)
    · exact (Text.hexDigit_ne_mark small).2 equal.symm

@[simp]
theorem isEncodable_text (id : TokenId) : id.text.isEncodable = true := by
  rw [text]
  exact Text.isEncodable_ofChars _

/-- A canonical text is the text of an identifier. -/
theorem exists_text_of_isCanonical {text : Text} (canonical : isCanonical text = true) :
    ∃ id : TokenId, id.text = text := by
  unfold isCanonical at canonical
  split at canonical
  · next id _ => exact ⟨id, beq_iff_eq.mp canonical⟩
  · exact absurd canonical (by decide)

theorem isEncodable_of_isCanonical {text : Text} (canonical : isCanonical text = true) :
    text.isEncodable = true := by
  obtain ⟨id, rfl⟩ := exists_text_of_isCanonical canonical
  exact isEncodable_text id

theorem isPart_of_isCanonical {text : Text} (canonical : isCanonical text = true) :
    StoreKey.isPart text = true := by
  obtain ⟨id, rfl⟩ := exists_text_of_isCanonical canonical
  exact isPart_text id

end TokenId

end TokenAuthority
