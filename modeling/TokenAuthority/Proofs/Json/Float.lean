import Mathlib.Data.List.Induction
import TokenAuthority.Proofs.Json.RoundTrip
import TokenAuthority.Proofs.Number.Decimal

/-!
Reading back a floating-point number that was written in JSON.

A finite number is written by its shortest decimal, always with a point or an exponent, so that it
is not taken for an integer.  The reader takes whole digits, fraction and exponent apart again.
Where the point stands decides how many zeros it reads around the digits of the decimal; those
before them are dropped, and those after them are made up for by the exponent.
-/

namespace TokenAuthority.Json

open Binary64 (Decimal DecimalParts shortest dropTrailingZeros)

/-! ### Digits -/

theorem digitsValue_concat (digits : List Char) (digit : Char) :
    Numeral.digitsValue (digits ++ [digit]) =
      Numeral.digitsValue digits * 10 + (digit.toNat - '0'.toNat) := by
  unfold Numeral.digitsValue
  rw [List.foldl_append]
  rfl

theorem digitsValue_append_zeros (digits : List Char) (count : Nat) :
    Numeral.digitsValue (digits ++ List.replicate count '0') =
      Numeral.digitsValue digits * 10 ^ count := by
  induction count with
  | zero => rw [List.replicate_zero, List.append_nil, Nat.pow_zero, Nat.mul_one]
  | succ count inductionHypothesis =>
      rw [List.replicate_succ', ← List.append_assoc, digitsValue_concat, inductionHypothesis,
        Nat.pow_succ, Nat.mul_assoc]
      rfl

theorem digitsValue_lt {digits : List Char}
    (areDigits : ∀ character ∈ digits, character.isDigit = true) :
    Numeral.digitsValue digits < 10 ^ digits.length := by
  induction digits using List.reverseRecOn with
  | nil => exact Nat.one_pos
  | append_singleton others digit inductionHypothesis =>
      have isDigit := areDigits digit (by simp)
      have below := inductionHypothesis fun character membership =>
        areDigits character (List.mem_append_left _ membership)
      have value : digit.toNat - '0'.toNat < 10 := by
        unfold Char.isDigit at isDigit
        rw [Bool.and_eq_true, decide_eq_true_eq, decide_eq_true_eq] at isDigit
        have atMost : digit.toNat ≤ '9'.toNat := UInt32.le_iff_toNat_le.mp isDigit.2
        have nine : '9'.toNat = '0'.toNat + 9 := rfl
        omega
      rw [digitsValue_concat, List.length_append, List.length_singleton, Nat.pow_succ]
      omega

theorem exists_eq_append_zeros (digits : List Char) :
    ∃ count, digits = dropTrailingZeros digits ++ List.replicate count '0' := by
  have areZeros : digits.reverse.takeWhile (· == '0') =
      List.replicate (digits.reverse.takeWhile (· == '0')).length '0' := by
    rw [List.eq_replicate_iff]
    exact ⟨rfl, fun character membership => by simpa using List.mem_takeWhile_imp membership⟩
  refine ⟨(digits.reverse.takeWhile (· == '0')).length, ?_⟩
  unfold dropTrailingZeros
  rw [← List.reverse_replicate, ← areZeros, ← List.reverse_append,
    List.takeWhile_append_dropWhile, List.reverse_reverse]

theorem isDigit_of_mem_zeros {count : Nat} {character : Char}
    (membership : character ∈ List.replicate count '0') : character.isDigit = true := by
  rw [List.eq_of_mem_replicate membership]
  rfl

/-- Digits of which the first is not zero. -/
structure Leads (digits : List Char) : Prop where
  areDigits : ∀ character ∈ digits, character.isDigit = true
  first : ∃ first others, digits = first :: others ∧ first ≠ '0'

namespace Leads

variable {digits : List Char} (leads : Leads digits)

include leads

theorem length_pos : 0 < digits.length := by
  obtain ⟨first, others, rfl, -⟩ := leads.first
  exact Nat.succ_pos _

theorem append_zeros (count : Nat) : Leads (digits ++ List.replicate count '0') where
  areDigits character membership :=
    (List.mem_append.mp membership).elim (leads.areDigits character) isDigit_of_mem_zeros
  first := by
    obtain ⟨first, others, rfl, notZero⟩ := leads.first
    exact ⟨first, others ++ List.replicate count '0', rfl, notZero⟩

theorem take {count : Nat} (positive : 0 < count) : Leads (digits.take count) where
  areDigits character membership := leads.areDigits character (List.mem_of_mem_take membership)
  first := by
    obtain ⟨first, others, rfl, notZero⟩ := leads.first
    obtain ⟨less, rfl⟩ := Nat.exists_eq_succ_of_ne_zero (Nat.ne_of_gt positive)
    exact ⟨first, others.take less, rfl, notZero⟩

theorem dropWhile_zeros (count : Nat) :
    (List.replicate count '0' ++ digits).dropWhile (· == '0') = digits := by
  obtain ⟨first, others, rfl, notZero⟩ := leads.first
  rw [List.dropWhile_append_of_pos (by simp),
    List.dropWhile_cons_of_neg (by simpa using notZero)]

end Leads

theorem leads_dropTrailingZeros {value : Nat} (positive : 0 < value) :
    Leads (dropTrailingZeros (digitsOf value)) := by
  obtain ⟨count, isAppend⟩ := exists_eq_append_zeros (digitsOf value)
  obtain ⟨first, others, begins, notZero⟩ := exists_digitsOf_eq_cons positive
  refine ⟨fun character membership => ?_, ?_⟩
  · apply isDigit_of_mem_digitsOf
    rw [isAppend]
    exact List.mem_append_left _ membership
  · -- If only zeros were left, the first digit would be one.
    cases isKept : dropTrailingZeros (digitsOf value) with
    | nil =>
        rw [isKept, List.nil_append, begins] at isAppend
        have isZero : first ∈ List.replicate count '0' := isAppend ▸ List.mem_cons_self
        exact absurd (List.eq_of_mem_replicate isZero) notZero
    | cons head tail =>
        rw [isKept, begins, List.cons_append] at isAppend
        exact ⟨head, tail, rfl, (List.cons.inj isAppend).1 ▸ notZero⟩

/-! ### Spelling -/

def exponentText : Option Int → List Char
  | none => []
  | some exponent =>
      'e' :: (if exponent < 0 then '-' else '+') :: Binary64.exponentDigits exponent.natAbs

/-- A number that is written by its whole digits, its fraction and its exponent. -/
def spelling (whole fraction : List Char) (exponent : Option Int) : List Char :=
  whole ++ (if fraction.isEmpty then [] else '.' :: fraction) ++ exponentText exponent

/-- Whether digits may stand before a point: they are a single zero or do not begin with one. -/
def IsWhole (whole : List Char) : Prop :=
  whole = ['0'] ∨ Leads whole

/-- Whether a decimal is written by these parts, and read from them. -/
structure Spells (decimal : Decimal) (whole fraction : List Char) (exponent : Option Int) :
    Prop where
  isSpelling : decimal.characters = spelling whole fraction exponent
  isWhole : IsWhole whole
  areDigits : ∀ character ∈ fraction, character.isDigit = true
  isFloat : fraction ≠ [] ∨ exponent ≠ none
  isValue : ∃ zeros, (whole ++ fraction).dropWhile (· == '0') =
      decimal.digits ++ List.replicate zeros '0' ∧
    exponent.getD 0 - fraction.length = decimal.point - decimal.digits.length - zeros

section Layout

variable {decimal : Decimal} (leads : Leads decimal.digits)

include leads

theorem spells_below (positional : -4 < decimal.point ∧ decimal.point ≤ 16)
    (below : decimal.point ≤ 0) :
    Spells decimal ['0'] (List.replicate (-decimal.point).toNat '0' ++ decimal.digits) none := by
  have positive := leads.length_pos
  have nonempty : List.replicate (-decimal.point).toNat '0' ++ decimal.digits ≠ [] := by
    rw [← List.length_pos_iff, List.length_append]
    omega
  refine ⟨?_, .inl rfl, ?_, .inl nonempty, 0, ?_, ?_⟩
  · unfold Decimal.characters spelling
    simp only [if_pos positional, if_pos below, List.isEmpty_iff, if_neg nonempty]
    simp [exponentText]
  · intro character membership
    exact (List.mem_append.mp membership).elim isDigit_of_mem_zeros (leads.areDigits character)
  · rw [List.replicate_zero, List.append_nil]
    exact leads.dropWhile_zeros ((-decimal.point).toNat + 1)
  · simp only [Option.getD_none, List.length_append, List.length_replicate]
    omega

theorem spells_whole (positional : -4 < decimal.point ∧ decimal.point ≤ 16)
    (above : 0 < decimal.point) (isWhole : (decimal.digits.length : Int) ≤ decimal.point) :
    Spells decimal (decimal.digits ++
      List.replicate (decimal.point - decimal.digits.length).toNat '0') ['0'] none := by
  refine ⟨?_, .inr (leads.append_zeros _), by simp, .inl (by simp),
    (decimal.point - decimal.digits.length).toNat + 1, ?_, ?_⟩
  · unfold Decimal.characters spelling
    simp only [if_pos positional, if_neg (Int.not_le.mpr above), if_pos isWhole]
    simp [exponentText]
  · rw [List.append_assoc, ← List.replicate_succ']
    exact (leads.append_zeros _).dropWhile_zeros 0
  · simp only [Option.getD_none, List.length_singleton]
    omega

theorem spells_between (positional : -4 < decimal.point ∧ decimal.point ≤ 16)
    (above : 0 < decimal.point) (notWhole : ¬(decimal.digits.length : Int) ≤ decimal.point) :
    Spells decimal (decimal.digits.take decimal.point.toNat)
      (decimal.digits.drop decimal.point.toNat) none := by
  have nonempty : decimal.digits.drop decimal.point.toNat ≠ [] := by
    rw [← List.length_pos_iff, List.length_drop]
    omega
  refine ⟨?_, .inr (leads.take (by omega)), ?_, .inl nonempty, 0, ?_, ?_⟩
  · unfold Decimal.characters spelling
    simp only [if_pos positional, if_neg (Int.not_le.mpr above), if_neg notWhole,
      List.isEmpty_iff, if_neg nonempty]
    simp [exponentText]
  · exact fun character membership => leads.areDigits character (List.mem_of_mem_drop membership)
  · rw [List.take_append_drop, List.replicate_zero, List.append_nil]
    exact leads.dropWhile_zeros 0
  · simp only [Option.getD_none, List.length_drop]
    omega

theorem spells_scientific (scientific : ¬(-4 < decimal.point ∧ decimal.point ≤ 16)) :
    Spells decimal (decimal.digits.take 1) (decimal.digits.drop 1) (some (decimal.point - 1)) := by
  have positive := leads.length_pos
  refine ⟨?_, .inr (leads.take Nat.one_pos), ?_, .inr (by simp), 0, ?_, ?_⟩
  · unfold Decimal.characters spelling exponentText
    simp only [if_neg scientific]
  · exact fun character membership => leads.areDigits character (List.mem_of_mem_drop membership)
  · rw [List.take_append_drop, List.replicate_zero, List.append_nil]
    exact leads.dropWhile_zeros 0
  · simp only [Option.getD_some, List.length_drop]
    omega

/-- Wherever its point stands, a decimal is written by parts from which it can be read. -/
theorem exists_spells : ∃ whole fraction exponent, Spells decimal whole fraction exponent := by
  by_cases positional : -4 < decimal.point ∧ decimal.point ≤ 16
  · rcases Int.lt_or_le 0 decimal.point with above | below
    · by_cases isWhole : (decimal.digits.length : Int) ≤ decimal.point
      · exact ⟨_, _, _, spells_whole leads positional above isWhole⟩
      · exact ⟨_, _, _, spells_between leads positional above isWhole⟩
    · exact ⟨_, _, _, spells_below leads positional below⟩
  · exact ⟨_, _, _, spells_scientific leads positional⟩

end Layout

/-! ### Reading -/

variable {rest : Text}

theorem splitWhole_whole {whole : List Char} (isWhole : IsWhole whole) (ends : EndsDigits rest) :
    splitWhole (Text.ofChars whole ++ rest) = (whole, rest) := by
  rcases isWhole with rfl | leads
  · rfl
  · have split := Text.splitWhile_ofChars leads.areDigits ends
    obtain ⟨first, others, rfl, notZero⟩ := leads.first
    rw [Text.ofChars_cons, List.cons_append] at split ⊢
    rw [splitWhole_of_ne_zero notZero, split]

theorem endsDigits_exponentText (ends : EndsNumber rest) (exponent : Option Int) :
    EndsDigits (Text.ofChars (exponentText exponent) ++ rest) := by
  cases exponent with
  | none => exact ends.endsDigits
  | some exponent => exact Text.endsBefore_cons rfl _

/-- What stands after the whole digits of a number: its fraction, its exponent and the rest. -/
theorem endsDigits_pointed (fraction : List Char) (ends : EndsDigits rest) :
    EndsDigits (Text.ofChars (if fraction.isEmpty then [] else '.' :: fraction) ++ rest) := by
  cases fraction with
  | nil => exact ends
  | cons first others => exact Text.endsBefore_cons rfl _

theorem readFraction_of_ne_point {first : Char} (notPoint : first ≠ '.') (others : Text) :
    readFraction (.char first :: others) = ([], .char first :: others) := by
  unfold readFraction
  split
  · next isPoint =>
      exact absurd (Text.CodePoint.char_injective (List.cons.inj isPoint).1) notPoint
  · rfl

theorem readFraction_pointed {fraction : List Char}
    (areDigits : ∀ character ∈ fraction, character.isDigit = true) (nonempty : fraction ≠ [])
    (ends : EndsDigits rest) :
    readFraction (.char '.' :: (Text.ofChars fraction ++ rest)) = (fraction, rest) := by
  unfold readFraction
  simp only [Text.splitWhile_ofChars areDigits ends]
  rw [if_neg (by simpa using nonempty)]

theorem exponentDigits_ne_nil (exponent : Nat) : Binary64.exponentDigits exponent ≠ [] := by
  unfold Binary64.exponentDigits
  simp only
  split
  · exact List.cons_ne_nil _ _
  · exact digitsOf_ne_nil exponent

theorem digitsValue_exponentDigits (exponent : Nat) :
    Numeral.digitsValue (Binary64.exponentDigits exponent) = exponent := by
  have value := digitsValue_digitsOf exponent
  unfold Binary64.exponentDigits
  simp only
  split
  · exact value
  · exact value

theorem readExponent_marked {digits : List Char} {negative : Bool} {sign : Char}
    (areDigits : ∀ character ∈ digits, character.isDigit = true) (nonempty : digits ≠ [])
    (isSign : splitSign (.char sign :: (Text.ofChars digits ++ rest)) =
      (negative, Text.ofChars digits ++ rest))
    (ends : EndsDigits rest) :
    readExponent (.char 'e' :: .char sign :: (Text.ofChars digits ++ rest)) =
      (some (Numeral.signed negative (Numeral.digitsValue digits)), rest) := by
  unfold readExponent
  simp only [isSign, Text.splitWhile_ofChars areDigits ends, true_or, if_true]
  rw [if_neg (by simpa using nonempty)]

theorem readExponent_exponentText (ends : EndsNumber rest) (exponent : Option Int) :
    readExponent (Text.ofChars (exponentText exponent) ++ rest) = (exponent, rest) := by
  cases exponent with
  | none => exact readExponent_of_ends ends
  | some exponent =>
      have areDigits : ∀ character ∈ Binary64.exponentDigits exponent.natAbs,
          character.isDigit = true := fun character => isDigit_of_mem_exponentDigits
      have nonempty := exponentDigits_ne_nil exponent.natAbs
      unfold exponentText
      simp only [Text.ofChars_cons, List.cons_append]
      rcases Int.lt_or_le exponent 0 with negative | nonnegative
      · have value : Numeral.signed true exponent.natAbs = exponent := by
          show -(exponent.natAbs : Int) = exponent
          omega
        rw [if_pos negative, readExponent_marked areDigits nonempty rfl ends.endsDigits,
          digitsValue_exponentDigits, value]
      · have value : Numeral.signed false exponent.natAbs = exponent := by
          show (exponent.natAbs : Int) = exponent
          omega
        rw [if_neg (Int.not_lt.mpr nonnegative),
          readExponent_marked areDigits nonempty rfl ends.endsDigits,
          digitsValue_exponentDigits, value]

theorem makeNumber_of_isFloat {fraction : List Char} {exponent : Option Int}
    (isFloat : fraction ≠ [] ∨ exponent ≠ none) (negative : Bool) (whole : List Char) :
    makeNumber negative whole fraction exponent =
      .ok (.float (DecimalParts.number ⟨whole, fraction, exponent.getD 0⟩ negative)) := by
  unfold makeNumber
  split
  · exact absurd isFloat (by simp)
  · rfl

/-- A number is read by the parts that it is spelled by. -/
theorem readUnsigned_spelling {whole fraction : List Char} {exponent : Option Int}
    (isWhole : IsWhole whole) (areDigits : ∀ character ∈ fraction, character.isDigit = true)
    (isFloat : fraction ≠ [] ∨ exponent ≠ none) (ends : EndsNumber rest) (negative : Bool) :
    readUnsigned negative (Text.ofChars (spelling whole fraction exponent) ++ rest) =
      .ok (.float (DecimalParts.number ⟨whole, fraction, exponent.getD 0⟩ negative), rest) := by
  have exponentEnds := endsDigits_exponentText ends exponent
  have split := splitWhole_whole isWhole (endsDigits_pointed fraction exponentEnds)
  have nonempty : ¬whole.isEmpty = true := by
    rcases isWhole with rfl | leads
    · decide
    · rw [List.isEmpty_iff_length_eq_zero]
      exact Nat.ne_of_gt leads.length_pos
  have isFraction : readFraction (Text.ofChars (if fraction.isEmpty then [] else '.' :: fraction) ++
      (Text.ofChars (exponentText exponent) ++ rest)) =
        (fraction, Text.ofChars (exponentText exponent) ++ rest) := by
    cases isCons : fraction with
    | nil =>
        have isSome : exponent ≠ none := isFloat.resolve_left (by simp [isCons])
        obtain ⟨value, rfl⟩ := Option.ne_none_iff_exists'.mp isSome
        exact readFraction_of_ne_point (by decide) _
    | cons first others =>
        rw [← isCons, if_neg (by simp [isCons])]
        exact readFraction_pointed areDigits (by simp [isCons]) exponentEnds
  rw [spelling, Text.ofChars_append, Text.ofChars_append, List.append_assoc, List.append_assoc,
    readUnsigned_eq, split, if_neg nonempty, isFraction, readExponent_exponentText ends,
    makeNumber_of_isFloat isFloat]
  rfl

/-! ### Values -/

/-- A decimal that is spelled by parts is the number that these parts make. -/
theorem Spells.number_eq {decimal : Decimal} {whole fraction : List Char} {exponent : Option Int}
    (spells : Spells decimal whole fraction exponent) (leads : Leads decimal.digits) {units : Nat}
    (rounded : Binary64.unitsOfDecimal (Numeral.digitsValue decimal.digits)
      (decimal.point - decimal.digits.length) = units)
    (positive : 0 < units) (inRange : units < Binary64.unitsLimit) (negative : Bool) :
    DecimalParts.number ⟨whole, fraction, exponent.getD 0⟩ negative = .finite negative units := by
  obtain ⟨zeros, digits, places⟩ := spells.isValue
  unfold DecimalParts.number
  simp only [digits, places]
  apply Binary64.ofDecimal_of_unitsOfDecimal
  · exact digitsValue_lt (leads.append_zeros zeros).areDigits
  · rw [digitsValue_append_zeros, Binary64.unitsOfDecimal_mul_pow, Int.sub_add_cancel, rounded]
  · exact positive
  · exact inRange

/-- A positive magnitude is written by digits of which the first is not zero, and without the zeros
at their end they still round to it. -/
theorem shortest_rounds {units : Nat} (positive : 0 < units)
    (kept : Binary64.lastBit units ∣ units) :
    Leads (shortest units).digits ∧
      Binary64.unitsOfDecimal (Numeral.digitsValue (shortest units).digits)
        ((shortest units).point - (shortest units).digits.length) = units := by
  have rounded := Binary64.unitsOfDecimal_shortestScaled kept
  obtain ⟨⟨value, exponent⟩, isScaled⟩ : ∃ decimal, Binary64.shortestScaled units = decimal :=
    ⟨_, rfl⟩
  rw [isScaled] at rounded
  rw [shortest_eq positive isScaled]
  simp only at rounded ⊢
  have valuePos : 0 < value := by
    apply Nat.pos_of_ne_zero
    rintro rfl
    rw [Binary64.unitsOfDecimal_zero] at rounded
    omega
  obtain ⟨count, isAppend⟩ := exists_eq_append_zeros (digitsOf value)
  have isValue := digitsValue_append_zeros (dropTrailingZeros (digitsOf value)) count
  have length := congrArg List.length isAppend
  rw [← isAppend, digitsValue_digitsOf] at isValue
  rw [List.length_append, List.length_replicate] at length
  have power : exponent + (digitsOf value).length -
      (dropTrailingZeros (digitsOf value)).length = exponent + count := by
    omega
  refine ⟨leads_dropTrailingZeros valuePos, ?_⟩
  rw [power, ← Binary64.unitsOfDecimal_mul_pow, ← isValue, rounded]

/-- The text of a magnitude is spelled by parts that make its number. -/
theorem exists_spelling {units : Nat} (inRange : units < Binary64.unitsLimit)
    (kept : Binary64.lastBit units ∣ units) :
    ∃ whole fraction exponent, (shortest units).characters = spelling whole fraction exponent ∧
      IsWhole whole ∧ (∀ character ∈ fraction, character.isDigit = true) ∧
      (fraction ≠ [] ∨ exponent ≠ none) ∧
      ∀ negative, DecimalParts.number ⟨whole, fraction, exponent.getD 0⟩ negative =
        .finite negative units := by
  rcases Nat.eq_zero_or_pos units with rfl | positive
  · exact ⟨['0'], ['0'], none, rfl, .inl rfl, by simp, .inl (by simp), fun negative => rfl⟩
  · obtain ⟨leads, rounded⟩ := shortest_rounds positive kept
    obtain ⟨whole, fraction, exponent, spells⟩ := exists_spells leads
    exact ⟨whole, fraction, exponent, spells.isSpelling, spells.isWhole, spells.areDigits,
      spells.isFloat, spells.number_eq leads rounded positive inRange⟩

/-! ### Whole texts -/

theorem IsWhole.spelling_begins {whole : List Char} (isWhole : IsWhole whole)
    (fraction : List Char) (exponent : Option Int) :
    ∃ first others, spelling whole fraction exponent = first :: others ∧
      first.isDigit = true := by
  rcases isWhole with rfl | leads
  · exact ⟨'0', _, rfl, rfl⟩
  · obtain ⟨first, others, rfl, -⟩ := leads.first
    exact ⟨first, _, rfl, leads.areDigits first List.mem_cons_self⟩

def signText (negative : Bool) : List Char :=
  if negative then ['-'] else []

/-- A sign with a digit after it begins a number, and no other value. -/
theorem signText_begins {first : Char} (isDigit : first.isDigit = true) (negative : Bool)
    (others : List Char) :
    ∃ begin rest, signText negative ++ first :: others = begin :: rest ∧ isSpace begin = false ∧
      begin ≠ ']' ∧ begin ≠ '}' := by
  cases negative with
  | true => exact ⟨'-', first :: others, rfl, by decide⟩
  | false =>
      refine ⟨first, others, rfl, ?_, ne_of_isDigit isDigit rfl, ne_of_isDigit isDigit rfl⟩
      simp [isSpace, ne_of_isDigit isDigit]

theorem readValue_signText {first : Char} (isDigit : first.isDigit = true) (negative : Bool)
    (fuel depth : Nat) (rest : Text) :
    readValue (fuel + 1) depth (Text.ofChars (signText negative) ++ .char first :: rest) =
      readUnsigned negative (.char first :: rest) := by
  cases negative with
  | true =>
      exact (readValue_scalar (by decide) (by decide) (by decide) fuel depth _).trans
        (readScalar_minus isDigit)
  | false =>
      exact (readValue_scalar (ne_of_isDigit isDigit rfl) (ne_of_isDigit isDigit rfl)
        (ne_of_isDigit isDigit rfl) fuel depth _).trans (readScalar_of_isDigit isDigit)

/-- Every finite number is written in characters that read back as it. -/
theorem readsBack_of_isFinite {value : Binary64} (finite : value.IsFinite) : ReadsBack value := by
  cases value with
  | infinite negative => exact finite.elim
  | notANumber negative => exact finite.elim
  | finite negative units =>
      obtain ⟨whole, fraction, exponent, isSpelling, isWhole, areDigits, isFloat, isNumber⟩ :=
        exists_spelling finite.1 finite.2
      have text : ((Binary64.finite negative units).textWith specialTexts).toList =
          signText negative ++ spelling whole fraction exponent := by
        rw [← isSpelling]
        exact String.toList_ofList
      obtain ⟨first, others, begins, isDigit⟩ := isWhole.spelling_begins fraction exponent
      constructor
      · rw [text, begins]
        exact signText_begins isDigit negative others
      · intro fuel depth rest ends
        have read := readUnsigned_spelling isWhole areDigits isFloat ends negative
        rw [isNumber, begins] at read
        rw [Text.ofString, text, begins, Text.ofChars_append, List.append_assoc]
        exact (readValue_signText isDigit negative fuel depth
          (Text.ofChars others ++ rest)).trans read

end TokenAuthority.Json
