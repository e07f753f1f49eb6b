import Mathlib.Data.List.TakeWhile
import Mathlib.Data.Nat.Digits.Defs
import TokenAuthority.Json.Reader
import TokenAuthority.Json.Writer
import TokenAuthority.Proofs.Text.CodePoint

/-!
Reading back an integer that was written in JSON.

An integer is written by its decimal digits, without a zero in front, and read by the digits up to
the first character that is none.
-/

namespace TokenAuthority.Json

open Text (EndsBefore)

/-- Whether digits that stand before a text end there. -/
abbrev EndsDigits (rest : Text) : Prop :=
  EndsBefore Char.isDigit rest

/-- Whether a number that stands before a text ends there. -/
def EndsNumber (rest : Text) : Prop :=
  EndsBefore (fun character => character.isDigit || character ∈ ['.', 'e', 'E']) rest

theorem EndsNumber.endsDigits {rest : Text} (ends : EndsNumber rest) : EndsDigits rest :=
  fun character isFirst => (Bool.or_eq_false_iff.mp (ends character isFirst)).1

theorem EndsNumber.ne_mark {rest : Text} {code : Text.CodePoint}
    (ends : EndsNumber (code :: rest)) :
    code ≠ .char '.' ∧ code ≠ .char 'e' ∧ code ≠ .char 'E' := by
  have apart : ∀ mark ∈ ['.', 'e', 'E'], code ≠ .char mark := by
    rintro mark isMark rfl
    exact absurd isMark (of_decide_eq_false (Bool.or_eq_false_iff.mp (ends mark rfl)).2)
  exact ⟨apart '.' (by decide), apart 'e' (by decide), apart 'E' (by decide)⟩

theorem endsNumber_nil : EndsNumber [] := by
  intro character isFirst
  cases isFirst

/-! ### Digits -/

/-- The decimal digits of a number, as they are written. -/
def digitsOf (value : Nat) : List Char :=
  Nat.toDigits 10 value

theorem isDigit_of_mem_digitsOf {value : Nat} {character : Char}
    (membership : character ∈ digitsOf value) : character.isDigit = true :=
  Nat.isDigit_of_mem_toDigits (by decide) (by decide) membership

theorem digitsValue_digitsOf (value : Nat) : Numeral.digitsValue (digitsOf value) = value := by
  have sameFold : Numeral.digitsValue (digitsOf value) =
      Nat.ofDigitChars 10 (digitsOf value) 0 := by
    unfold Numeral.digitsValue Nat.ofDigitChars
    simp only [Nat.mul_comm 10]
  rw [sameFold]
  exact Nat.ofDigitChars_toDigits (by decide) (by decide)

/-- The digits of a number other than zero do not begin with a zero. -/
theorem exists_digitsOf_eq_cons {value : Nat} (positive : 0 < value) :
    ∃ first others, digitsOf value = first :: others ∧ first ≠ '0' := by
  induction value using Nat.strongRecOn with
  | ind value inductionHypothesis =>
      unfold digitsOf at inductionHypothesis ⊢
      by_cases small : value < 10
      · have checked : ∀ digit < 10, 0 < digit → Nat.digitChar digit ≠ '0' := by decide
        exact ⟨_, [], Nat.toDigits_of_lt_base small, checked value small positive⟩
      · have atLeast : 10 ≤ value := Nat.not_lt.mp small
        obtain ⟨first, others, isCons, notZero⟩ :=
          inductionHypothesis (value / 10) (by omega) (by omega)
        rw [Nat.toDigits_of_base_le (by decide) atLeast, isCons]
        exact ⟨first, others ++ [(value % 10).digitChar], rfl, notZero⟩

theorem digitsOf_zero : digitsOf 0 = ['0'] := by
  unfold digitsOf
  rfl

theorem digitsOf_ne_nil (value : Nat) : digitsOf value ≠ [] := by
  rcases Nat.eq_zero_or_pos value with rfl | positive
  · rw [digitsOf_zero]
    exact List.cons_ne_nil _ _
  · obtain ⟨first, others, isCons, -⟩ := exists_digitsOf_eq_cons positive
    rw [isCons]
    exact List.cons_ne_nil _ _

/-! ### Reading -/

variable {rest : Text}

theorem readFraction_of_ends (ends : EndsNumber rest) : readFraction rest = ([], rest) := by
  cases rest with
  | nil => rfl
  | cons code others =>
      have noPoint := ends.ne_mark.1
      unfold readFraction
      split
      · next isCons => exact absurd (List.cons.inj isCons).1 noPoint
      · rfl

theorem readExponent_of_ends (ends : EndsNumber rest) : readExponent rest = (none, rest) := by
  cases rest with
  | nil => rfl
  | cons code others =>
      obtain ⟨-, noSmall, noCapital⟩ := ends.ne_mark
      unfold readExponent
      exact if_neg (not_or.mpr ⟨noSmall, noCapital⟩)

theorem splitWhole_of_ne_zero {first : Char} (notZero : first ≠ '0') (others : Text) :
    splitWhole (.char first :: others) = Text.splitWhile Char.isDigit (.char first :: others) := by
  unfold splitWhole
  split
  · next isZero => exact absurd (Text.CodePoint.char_injective (List.cons.inj isZero).1) notZero
  · rfl

theorem splitWhole_digitsOf (ends : EndsNumber rest) (value : Nat) :
    splitWhole (Text.ofChars (digitsOf value) ++ rest) = (digitsOf value, rest) := by
  rcases Nat.eq_zero_or_pos value with rfl | positive
  · rw [digitsOf_zero]
    rfl
  · have whole :
        Text.splitWhile Char.isDigit (Text.ofChars (digitsOf value) ++ rest) =
          (digitsOf value, rest) :=
      Text.splitWhile_ofChars (fun _ => isDigit_of_mem_digitsOf) ends.endsDigits
    obtain ⟨first, others, isCons, notZero⟩ := exists_digitsOf_eq_cons positive
    rw [isCons, Text.ofChars_cons, List.cons_append] at whole ⊢
    rw [splitWhole_of_ne_zero notZero, whole]

theorem readUnsigned_eq (negative : Bool) (text : Text) :
    readUnsigned negative text =
      if (splitWhole text).1.isEmpty then .error .malformed
      else
        (makeNumber negative (splitWhole text).1
          (readFraction (splitWhole text).2).1
          (readExponent (readFraction (splitWhole text).2).2).1).map
            (·, (readExponent (readFraction (splitWhole text).2).2).2) := by
  rfl

/-- The digits of a number are read as the number, with its sign. -/
theorem readUnsigned_digitsOf (ends : EndsNumber rest) {value : Nat}
    (short : (digitsOf value).length ≤ Numeral.digitLimit) (negative : Bool) :
    readUnsigned negative (Text.ofChars (digitsOf value) ++ rest) =
      .ok (.int (Numeral.signed negative value), rest) := by
  have nonempty : ¬(digitsOf value).isEmpty = true := by
    rw [List.isEmpty_iff]
    exact digitsOf_ne_nil value
  rw [readUnsigned_eq, splitWhole_digitsOf ends, if_neg nonempty, readFraction_of_ends ends,
    readExponent_of_ends ends, makeNumber, if_neg (Nat.not_lt.mpr short), digitsValue_digitsOf]
  rfl

theorem char_beq_of_isDigit {character mark : Char} (isDigit : character.isDigit = true)
    (noDigit : mark.isDigit = false) :
    (Text.CodePoint.char mark == .char character) = false := by
  rw [beq_eq_false_iff_ne]
  rintro same
  rw [Text.CodePoint.char_injective same, isDigit] at noDigit
  cases noDigit

/-- No word begins with a digit. -/
theorem word?_of_isDigit {character : Char} (isDigit : character.isDigit = true) :
    word? (.char character :: rest) = none := by
  simp [word?, words, Text.ofChars, List.isPrefixOf, char_beq_of_isDigit isDigit]

theorem word?_minus {character : Char} (isDigit : character.isDigit = true) :
    word? (.char '-' :: .char character :: rest) = none := by
  simp [word?, words, Text.ofChars, List.isPrefixOf, char_beq_of_isDigit isDigit]

/-- What begins with a digit is read as a number without a sign. -/
theorem readScalar_of_isDigit {character : Char} (isDigit : character.isDigit = true) :
    readScalar (.char character :: rest) = readUnsigned false (.char character :: rest) := by
  rw [readScalar, word?_of_isDigit isDigit]
  rintro others isMinus
  cases isMinus
  cases isDigit

theorem readScalar_minus {character : Char} (isDigit : character.isDigit = true) :
    readScalar (.char '-' :: .char character :: rest) =
      readUnsigned true (.char character :: rest) := by
  rw [readScalar, word?_minus isDigit]

/-- Whether an integer has no more digits than may be read. -/
def IsShort (value : Int) : Prop :=
  (digitsOf value.natAbs).length ≤ Numeral.digitLimit

theorem isShort_of_lt {value : Int} {count : Nat} (positive : 0 < count)
    (bounded : count ≤ Numeral.digitLimit) (small : value.natAbs < 10 ^ count) : IsShort value :=
  Nat.le_trans ((Nat.length_toDigits_le_iff (by decide) positive).mpr small) bounded

theorem writeInt_of_neg {value : Int} (negative : value < 0) :
    writeInt value = '-' :: digitsOf value.natAbs :=
  if_pos negative

theorem writeInt_of_nonneg {value : Int} (nonnegative : 0 ≤ value) :
    writeInt value = digitsOf value.natAbs :=
  if_neg (Int.not_lt.mpr nonnegative)

theorem writeInt_begins (value : Int) :
    ∃ first others, writeInt value = first :: others ∧ (first = '-' ∨ first.isDigit = true) := by
  rcases Int.lt_or_le value 0 with negative | nonnegative
  · exact ⟨'-', _, writeInt_of_neg negative, .inl rfl⟩
  · obtain ⟨first, others, isCons⟩ := List.exists_cons_of_ne_nil (digitsOf_ne_nil value.natAbs)
    have isDigit : first.isDigit = true :=
      isDigit_of_mem_digitsOf (isCons ▸ List.mem_cons_self)
    exact ⟨first, others, (writeInt_of_nonneg nonnegative).trans isCons, .inr isDigit⟩

theorem ne_of_isDigit {character mark : Char} (isDigit : character.isDigit = true)
    (noDigit : mark.isDigit = false) : character ≠ mark := by
  rintro rfl
  rw [isDigit] at noDigit
  cases noDigit

theorem readScalar_writeInt (ends : EndsNumber rest) {value : Int} (short : IsShort value) :
    readScalar (Text.ofChars (writeInt value) ++ rest) = .ok (.int value, rest) := by
  obtain ⟨first, others, isCons⟩ := List.exists_cons_of_ne_nil (digitsOf_ne_nil value.natAbs)
  have isDigit : first.isDigit = true :=
    isDigit_of_mem_digitsOf (isCons ▸ List.mem_cons_self)
  rcases Int.lt_or_le value 0 with negative | nonnegative
  · have isValue : Numeral.signed true value.natAbs = value := by
      show -(value.natAbs : Int) = value
      omega
    have unsigned := readUnsigned_digitsOf ends short true
    rw [isValue, isCons, Text.ofChars_cons, List.cons_append] at unsigned
    rw [writeInt_of_neg negative, isCons, Text.ofChars_cons, Text.ofChars_cons, List.cons_append,
      List.cons_append, readScalar_minus isDigit, unsigned]
  · have isValue : Numeral.signed false value.natAbs = value := by
      show (value.natAbs : Int) = value
      omega
    have unsigned := readUnsigned_digitsOf ends short false
    rw [isValue, isCons, Text.ofChars_cons, List.cons_append] at unsigned
    rw [writeInt_of_nonneg nonnegative, isCons, Text.ofChars_cons, List.cons_append,
      readScalar_of_isDigit isDigit, unsigned]

end TokenAuthority.Json
