import Mathlib.Data.List.TakeWhile
import Mathlib.Data.Nat.Digits.Defs
import Mathlib.Tactic.Ring
import TokenAuthority.Number.Numeral

/-!
What hexadecimal numerals write.

The rules say which characters write which number: digits with single underscores between them,
behind a mark of the radix, behind a sign, with blanks around.  Reading a numeral finds the number
that the rules give, and fails when they give none.
-/

namespace TokenAuthority

namespace Text

variable {drop : Char → Bool}

/-- What is left after the ends are stripped stands between characters to be dropped. -/
theorem exists_eq_append_stripWhile (drop : Char → Bool) (characters : List Char) :
    ∃ before after, characters = before ++ stripWhile drop characters ++ after ∧
      ∀ character ∈ before ++ after, drop character = true := by
  have dropped : ∀ list : List Char, ∀ character ∈ list.takeWhile drop, drop character = true :=
    fun list _ membership => List.mem_takeWhile_imp membership
  refine ⟨characters.takeWhile drop,
    ((characters.dropWhile drop).reverse.takeWhile drop).reverse, ?_, ?_⟩
  · unfold stripWhile
    rw [List.append_assoc, ← List.reverse_append, List.takeWhile_append_dropWhile,
      List.reverse_reverse, List.takeWhile_append_dropWhile]
  · intro character membership
    rcases List.mem_append.mp membership with isBefore | isAfter
    · exact dropped _ character isBefore
    · exact dropped _ character (List.mem_reverse.mp isAfter)

/-- Stripping takes nothing from the characters between those to be dropped. -/
theorem stripWhile_append_append {before core after : List Char}
    (ends : ∀ character ∈ before ++ after, drop character = true)
    (kept : ∀ character ∈ core, drop character = false) :
    stripWhile drop (before ++ core ++ after) = core := by
  have beforeDropped : ∀ character ∈ before, drop character = true :=
    fun character membership => ends character (List.mem_append_left _ membership)
  have afterDropped : ∀ character ∈ after, drop character = true :=
    fun character membership => ends character (List.mem_append_right _ membership)
  have reversedDropped : ∀ character ∈ after.reverse, drop character = true :=
    fun character membership => afterDropped character (List.mem_reverse.mp membership)
  unfold stripWhile
  rw [List.append_assoc, List.dropWhile_append_of_pos beforeDropped]
  cases core with
  | nil =>
      rw [List.nil_append, List.dropWhile_eq_nil_iff.mpr afterDropped]
      rfl
  | cons first rest =>
      have reversedKept : (first :: rest).reverse.dropWhile drop = (first :: rest).reverse := by
        apply List.dropWhile_eq_self_iff.mpr
        intro _
        rw [kept _ (List.mem_reverse.mp (List.getElem_mem _))]
        exact Bool.false_ne_true
      rw [List.cons_append, List.dropWhile_cons_of_neg (by simp [kept first List.mem_cons_self]),
        ← List.cons_append, List.reverse_append, List.dropWhile_append_of_pos reversedDropped,
        reversedKept, List.reverse_reverse]

end Text

namespace Numeral

/-! ### Digits -/

/-- Digits of a radix with their values.  There may be an underscore between two of them. -/
inductive Digits (radix : Nat) : List Char → List Nat → Prop where
  | last {character : Char} {digit : Nat} :
      digitBelow? radix character = some digit → Digits radix [character] [digit]
  | next {character : Char} {digit : Nat} {rest : List Char} {digits : List Nat} :
      digitBelow? radix character = some digit →
      Digits radix rest digits → Digits radix (character :: rest) (digit :: digits)
  | underscored {character : Char} {digit : Nat} {rest : List Char} {digits : List Nat} :
      digitBelow? radix character = some digit →
      Digits radix rest digits → Digits radix (character :: '_' :: rest) (digit :: digits)

theorem digits_of_map_eq {radix : Nat} {characters : List Char} {digits : List Nat}
    (areDigits : characters.map (digitBelow? radix) = digits.map some) (notEmpty : digits ≠ []) :
    Digits radix characters digits := by
  induction digits generalizing characters with
  | nil => exact absurd rfl notEmpty
  | cons digit others inductionHypothesis =>
      obtain ⟨character, rest, rfl, isDigit, areOthers⟩ := List.map_eq_cons_iff.mp areDigits
      cases others with
      | nil =>
          obtain rfl := List.map_eq_nil_iff.mp areOthers
          exact .last isDigit
      | cons => exact .next isDigit (inductionHypothesis areOthers (List.cons_ne_nil _ _))

/-- What may follow a digit. -/
def Continues (radix : Nat) (characters : List Char) (digits : List Nat) : Prop :=
  (characters = [] ∧ digits = []) ∨ Digits radix characters digits ∨
    ∃ rest, characters = '_' :: rest ∧ Digits radix rest digits

variable {radix : Nat}

theorem not_digits_nil (digits : List Nat) : ¬Digits radix [] digits := by
  intro impossible
  cases impossible

theorem digits_cons_iff {character : Char} {rest : List Char} {digits : List Nat} :
    Digits radix (character :: rest) digits ↔
      ∃ digit others, digitBelow? radix character = some digit ∧ digits = digit :: others ∧
        Continues radix rest others := by
  constructor
  · intro written
    cases written with
    | last isDigit => exact ⟨_, _, isDigit, rfl, .inl ⟨rfl, rfl⟩⟩
    | next isDigit more => exact ⟨_, _, isDigit, rfl, .inr (.inl more)⟩
    | underscored isDigit more => exact ⟨_, _, isDigit, rfl, .inr (.inr ⟨_, rfl, more⟩)⟩
  · rintro ⟨digit, others, isDigit, rfl, ⟨rfl, rfl⟩ | more | ⟨rest, rfl, more⟩⟩
    · exact .last isDigit
    · exact .next isDigit more
    · exact .underscored isDigit more

theorem continues_nil_iff {digits : List Nat} : Continues radix [] digits ↔ digits = [] := by
  simp [Continues, not_digits_nil]

theorem not_digits_underscore {rest : List Char} (digits : List Nat) :
    ¬Digits radix ('_' :: rest) digits := by
  intro written
  obtain ⟨digit, -, isDigit, -⟩ := digits_cons_iff.mp written
  cases isDigit

theorem continues_underscore_iff {rest : List Char} {digits : List Nat} :
    Continues radix ('_' :: rest) digits ↔ Digits radix rest digits := by
  simp [Continues, not_digits_underscore]

theorem continues_cons_iff {character : Char} (noUnderscore : character ≠ '_')
    {rest : List Char} {digits : List Nat} :
    Continues radix (character :: rest) digits ↔ Digits radix (character :: rest) digits := by
  simp [Continues, noUnderscore]

/-- The value and the count of digits that are read after others. -/
def appended (radix value count : Nat) (digits : List Nat) : Nat × Nat :=
  (value * radix ^ digits.length + Nat.ofDigits radix digits.reverse, count + digits.length)

theorem appended_cons (value count digit : Nat) (digits : List Nat) :
    appended radix value count (digit :: digits) =
      appended radix (value * radix + digit) (count + 1) digits := by
  unfold appended
  rw [List.reverse_cons, Nat.ofDigits_append, Nat.ofDigits_singleton, List.length_reverse,
    List.length_cons, Nat.pow_succ]
  refine Prod.ext ?_ ?_
  · ring
  · simp only
    omega

/-- Digits are read with their value, at the beginning as well as after a digit. -/
theorem readDigits?_eq_some_iff (characters : List Char) (value count : Nat) (result : Nat × Nat) :
    (readDigits? radix false value count characters = some result ↔
        ∃ digits, Digits radix characters digits ∧ result = appended radix value count digits) ∧
      (readDigits? radix true value count characters = some result ↔
        ∃ digits, Continues radix characters digits ∧
          result = appended radix value count digits) := by
  induction characters generalizing value count with
  | nil =>
      constructor
      · simp [readDigits?, not_digits_nil]
      · simp [readDigits?, continues_nil_iff, appended, eq_comm]
  | cons character rest inductionHypothesis =>
      by_cases isUnderscore : character = '_'
      · subst isUnderscore
        constructor
        · simp [readDigits?, not_digits_underscore]
        · simp only [readDigits?, if_true, continues_underscore_iff]
          exact (inductionHypothesis value count).1
      · have reads : ∀ afterDigit,
            readDigits? radix afterDigit value count (character :: rest) = some result ↔
              ∃ digits, Digits radix (character :: rest) digits ∧
                result = appended radix value count digits := by
          intro afterDigit
          rw [readDigits?.eq_3 _ _ _ _ _ _ isUnderscore]
          cases isDigit : digitBelow? radix character with
          | none => simp [digits_cons_iff, isDigit]
          | some digit =>
              simp only [(inductionHypothesis _ _).2, digits_cons_iff, isDigit]
              constructor
              · rintro ⟨digits, more, rfl⟩
                exact ⟨_, ⟨digit, digits, rfl, rfl, more⟩, (appended_cons _ _ _ _).symm⟩
              · rintro ⟨-, ⟨found, digits, isFound, rfl, more⟩, rfl⟩
                obtain rfl := Option.some.inj isFound
                exact ⟨digits, more, appended_cons _ _ _ _⟩
        simp only [continues_cons_iff isUnderscore]
        exact ⟨reads false, reads true⟩

/-- A hexadecimal numeral may have any number of digits. -/
theorem magnitude?_eq (characters : List Char) :
    magnitude? 16 characters = (readDigits? 16 false 0 0 characters).map Prod.fst := by
  unfold magnitude?
  cases readDigits? 16 false 0 0 characters with
  | none => rfl
  | some result => simp

theorem magnitude?_eq_some_iff {characters : List Char} {value : Nat} :
    magnitude? 16 characters = some value ↔
      ∃ digits, Digits 16 characters digits ∧ value = Nat.ofDigits 16 digits.reverse := by
  rw [magnitude?_eq, Option.map_eq_some_iff]
  constructor
  · rintro ⟨result, read, rfl⟩
    obtain ⟨digits, written, rfl⟩ := (readDigits?_eq_some_iff characters 0 0 result).1.mp read
    exact ⟨digits, written, by simp [appended]⟩
  · rintro ⟨digits, written, rfl⟩
    refine ⟨_, (readDigits?_eq_some_iff characters 0 0 _).1.mpr ⟨digits, written, rfl⟩, ?_⟩
    simp [appended]

/-! ### Marks of the radix -/

/-- A hexadecimal number without a sign.  Its digits may stand behind a mark of the radix, and an
underscore between the mark and them. -/
inductive Magnitude : List Char → Nat → Prop where
  | unmarked {characters : List Char} {digits : List Nat} :
      Digits 16 characters digits → Magnitude characters (Nat.ofDigits 16 digits.reverse)
  | marked {mark : Char} {characters : List Char} {digits : List Nat} :
      mark = 'x' ∨ mark = 'X' →
      Digits 16 characters digits →
      Magnitude ('0' :: mark :: characters) (Nat.ofDigits 16 digits.reverse)
  | markedApart {mark : Char} {characters : List Char} {digits : List Nat} :
      mark = 'x' ∨ mark = 'X' →
      Digits 16 characters digits →
      Magnitude ('0' :: mark :: '_' :: characters) (Nat.ofDigits 16 digits.reverse)

theorem not_digits_marked {mark : Char} (isMark : mark = 'x' ∨ mark = 'X')
    (rest : List Char) (digits : List Nat) : ¬Digits 16 ('0' :: mark :: rest) digits := by
  have notDigit : digitBelow? 16 mark = none := by rcases isMark with rfl | rfl <;> rfl
  have notUnderscore : mark ≠ '_' := by rcases isMark with rfl | rfl <;> decide
  intro written
  obtain ⟨-, others, -, -, more⟩ := digits_cons_iff.mp written
  obtain ⟨digit, -, isDigit, -⟩ :=
    digits_cons_iff.mp ((continues_cons_iff notUnderscore).mp more)
  rw [notDigit] at isDigit
  cases isDigit

theorem dropUnderscore_of_digits {characters : List Char} {digits : List Nat}
    (written : Digits radix characters digits) : dropUnderscore characters = characters := by
  unfold dropUnderscore
  split
  · exact absurd written (not_digits_underscore _)
  · rfl

theorem magnitude_marked_iff {mark : Char} (isMark : mark = 'x' ∨ mark = 'X') {rest : List Char}
    {value : Nat} :
    Magnitude ('0' :: mark :: rest) value ↔
      ∃ digits, Digits 16 (dropUnderscore rest) digits ∧
        value = Nat.ofDigits 16 digits.reverse := by
  constructor
  · intro written
    cases written with
    | unmarked plain => exact absurd plain (not_digits_marked isMark _ _)
    | marked _ more => exact ⟨_, (dropUnderscore_of_digits more).symm ▸ more, rfl⟩
    | markedApart _ more => exact ⟨_, more, rfl⟩
  · rintro ⟨digits, more, rfl⟩
    unfold dropUnderscore at more
    split at more
    · exact .markedApart isMark more
    · exact .marked isMark more

theorem magnitude_iff_of_unmarked {characters : List Char}
    (noMark : ∀ mark rest, mark = 'x' ∨ mark = 'X' → characters ≠ '0' :: mark :: rest)
    {value : Nat} :
    Magnitude characters value ↔
      ∃ digits, Digits 16 characters digits ∧ value = Nat.ofDigits 16 digits.reverse := by
  constructor
  · intro written
    cases written with
    | unmarked plain => exact ⟨_, plain, rfl⟩
    | marked isMark => exact absurd rfl (noMark _ _ isMark)
    | markedApart isMark => exact absurd rfl (noMark _ _ isMark)
  · rintro ⟨digits, plain, rfl⟩
    exact .unmarked plain

/-- The mark of the radix is a zero and one of the two letters. -/
theorem splitMark_eq_some_sixteen_iff {characters rest : List Char} :
    splitMark characters = some (16, rest) ↔
      ∃ mark, (mark = 'x' ∨ mark = 'X') ∧ characters = '0' :: mark :: rest := by
  constructor
  · intro split
    unfold splitMark at split
    split at split
    all_goals simp_all
  · rintro ⟨mark, rfl | rfl, rfl⟩ <;> rfl

theorem magnitudeAfterMark?_eq_some_iff {characters : List Char} {value : Nat} :
    magnitudeAfterMark? 16 characters = some value ↔ Magnitude characters value := by
  by_cases marked : ∃ rest, splitMark characters = some (16, rest)
  · obtain ⟨rest, split⟩ := marked
    obtain ⟨mark, isMark, rfl⟩ := splitMark_eq_some_sixteen_iff.mp split
    unfold magnitudeAfterMark?
    simp only [split, if_true]
    rw [magnitude?_eq_some_iff, magnitude_marked_iff isMark]
  · have noMark : ∀ mark rest, mark = 'x' ∨ mark = 'X' → characters ≠ '0' :: mark :: rest :=
      fun mark rest isMark equal =>
        marked ⟨rest, splitMark_eq_some_sixteen_iff.mpr ⟨mark, isMark, equal⟩⟩
    have readsAll : magnitudeAfterMark? 16 characters = magnitude? 16 characters := by
      unfold magnitudeAfterMark?
      split
      · next other rest split =>
          refine if_neg fun isRadix => marked ⟨rest, ?_⟩
          rw [split, isRadix]
      · rfl
    rw [readsAll, magnitude?_eq_some_iff, magnitude_iff_of_unmarked noMark]

/-! ### Signs -/

/-- A hexadecimal number with or without a sign. -/
inductive Signed : List Char → Int → Prop where
  | unsigned {characters : List Char} {value : Nat} :
      Magnitude characters value → Signed characters value
  | plus {characters : List Char} {value : Nat} :
      Magnitude characters value → Signed ('+' :: characters) value
  | minus {characters : List Char} {value : Nat} :
      Magnitude characters value → Signed ('-' :: characters) (-value)

/-- What a digit cannot be is not at the beginning of a number. -/
theorem ne_cons_of_magnitude {character : Char} (isNone : digitBelow? 16 character = none)
    {characters rest : List Char} {value : Nat} (written : Magnitude characters value) :
    characters ≠ character :: rest := by
  rintro rfl
  cases written with
  | unmarked plain =>
      obtain ⟨digit, -, isDigit, -⟩ := digits_cons_iff.mp plain
      rw [isNone] at isDigit
      cases isDigit
  | marked => cases isNone
  | markedApart => cases isNone

theorem splitSign_of_magnitude {characters : List Char} {value : Nat}
    (written : Magnitude characters value) : splitSign characters = (false, characters) := by
  unfold splitSign
  split
  · exact absurd rfl (ne_cons_of_magnitude rfl written)
  · exact absurd rfl (ne_cons_of_magnitude rfl written)
  · rfl

theorem signed_iff {characters : List Char} {number : Int} :
    Signed characters number ↔
      ∃ value, Magnitude (splitSign characters).2 value ∧
        number = signed (splitSign characters).1 value := by
  constructor
  · intro written
    cases written with
    | unsigned magnitude =>
        rw [splitSign_of_magnitude magnitude]
        exact ⟨_, magnitude, rfl⟩
    | plus magnitude => exact ⟨_, magnitude, rfl⟩
    | minus magnitude => exact ⟨_, magnitude, rfl⟩
  · rintro ⟨value, magnitude, rfl⟩
    unfold splitSign at magnitude ⊢
    split at magnitude
    · exact .minus magnitude
    · exact .plus magnitude
    · exact .unsigned magnitude

/-! ### Blanks -/

theorem blank_notMem_of_digits {characters : List Char} {digits : List Nat}
    (written : Digits radix characters digits) : ' ' ∉ characters := by
  have notBlank : ∀ {character : Char} {digit : Nat},
      digitBelow? radix character = some digit → ' ' ≠ character := by
    rintro character digit isDigit rfl
    cases isDigit
  induction written with
  | last isDigit => simpa using notBlank isDigit
  | next isDigit _ inductionHypothesis => simp [notBlank isDigit, inductionHypothesis]
  | underscored isDigit _ inductionHypothesis => simp [notBlank isDigit, inductionHypothesis]

theorem blank_notMem_of_magnitude {characters : List Char} {value : Nat}
    (written : Magnitude characters value) : ' ' ∉ characters := by
  cases written with
  | unmarked digits => exact blank_notMem_of_digits digits
  | marked isMark digits =>
      rcases isMark with rfl | rfl <;> simp [blank_notMem_of_digits digits]
  | markedApart isMark digits =>
      rcases isMark with rfl | rfl <;> simp [blank_notMem_of_digits digits]

theorem blank_notMem_of_signed {characters : List Char} {number : Int}
    (written : Signed characters number) : ' ' ∉ characters := by
  cases written with
  | unsigned magnitude => exact blank_notMem_of_magnitude magnitude
  | plus magnitude => simp [blank_notMem_of_magnitude magnitude]
  | minus magnitude => simp [blank_notMem_of_magnitude magnitude]

/-- A hexadecimal numeral: a number with blanks before and after it. -/
def Written (characters : List Char) (number : Int) : Prop :=
  ∃ before core after, characters = before ++ core ++ after ∧
    (∀ character ∈ before ++ after, character = ' ') ∧ Signed core number

theorem written_iff {characters : List Char} {number : Int} :
    Written characters number ↔ Signed (Text.stripWhile (· == ' ') characters) number := by
  constructor
  · rintro ⟨before, core, after, rfl, areBlank, written⟩
    rw [Text.stripWhile_append_append]
    · exact written
    · intro character membership
      exact beq_iff_eq.mpr (areBlank character membership)
    · intro character membership
      apply beq_eq_false_iff_ne.mpr
      rintro rfl
      exact blank_notMem_of_signed written membership
  · intro written
    obtain ⟨before, after, split, areBlank⟩ :=
      Text.exists_eq_append_stripWhile (· == ' ') characters
    exact ⟨before, _, after, split, fun character membership =>
      beq_iff_eq.mp (areBlank character membership), written⟩

theorem written_of_digits {characters : List Char} {digits : List Nat}
    (written : Digits 16 characters digits) :
    Written characters (Nat.ofDigits 16 digits.reverse : Nat) :=
  ⟨[], characters, [], by simp, by simp, .unsigned (.unmarked written)⟩

/-! ### Reading -/

theorem normalize?_of_digit {character : Char} {digit : Nat}
    (isDigit : digitBelow? radix character = some digit) :
    normalize? character = some character := by
  obtain ⟨hasValue, -⟩ := Option.filter_eq_some_iff.mp isDigit
  have ofRange : ∀ {low high : Char}, 0x21 ≤ low.toNat → high.toNat < 0x7f →
      low ≤ character ∧ character ≤ high → 0x21 ≤ character.toNat ∧ character.toNat < 0x7f :=
    fun lowBound highBound range =>
      ⟨Nat.le_trans lowBound range.1, Nat.lt_of_le_of_lt range.2 highBound⟩
  have isAscii : 0x21 ≤ character.toNat ∧ character.toNat < 0x7f := by
    unfold Text.radixDigit? at hasValue
    split at hasValue
    · next range => exact ofRange (by decide) (by decide) range
    · split at hasValue
      · next range => exact ofRange (by decide) (by decide) range
      · split at hasValue
        · next range => exact ofRange (by decide) (by decide) range
        · cases hasValue
  have notBlank : Text.isBlank character = false := by
    unfold Text.isBlank
    simp only [Bool.or_eq_false_iff, Bool.and_eq_false_iff, decide_eq_false_iff_not,
      beq_eq_false_iff_ne]
    omega
  have notSpace : Text.isSpace character = false := by
    unfold Text.isSpace
    rw [notBlank, Bool.false_and]
  unfold normalize?
  rw [if_pos isAscii.2, notSpace]
  rfl

theorem mapM_normalize?_of_digits {characters : List Char} {digits : List Nat}
    (written : Digits radix characters digits) :
    characters.mapM normalize? = some characters := by
  have underscore : normalize? '_' = some '_' := rfl
  induction written with
  | last isDigit => simp [normalize?_of_digit isDigit]
  | next isDigit _ inductionHypothesis =>
      simp [normalize?_of_digit isDigit, inductionHypothesis]
  | underscored isDigit _ inductionHypothesis =>
      simp [normalize?_of_digit isDigit, underscore, inductionHypothesis]

/-- A text is read as the number that its characters write, once they are put into ASCII. -/
theorem parse?_eq_some_iff {text : String} {number : Int} :
    parse? 16 text = some number ↔
      ∃ characters, text.toList.mapM normalize? = some characters ∧ Written characters number := by
  unfold parse? parseSigned? core?
  cases normalized : text.toList.mapM normalize? with
  | none => simp
  | some characters =>
      simp only [Option.map_some, Option.bind_eq_bind, Option.bind_some, Option.pure_def,
        Option.bind_eq_some_iff, magnitudeAfterMark?_eq_some_iff, Option.some.injEq,
        exists_eq_left', written_iff, signed_iff]
      constructor
      · rintro ⟨value, magnitude, rfl⟩
        exact ⟨value, magnitude, rfl⟩
      · rintro ⟨value, magnitude, rfl⟩
        exact ⟨value, magnitude, rfl⟩

end Numeral

end TokenAuthority
