import TokenAuthority.Json.Reader
import TokenAuthority.Json.Writer
import TokenAuthority.Proofs.Token.Id

/-!
Reading back a text that was written in JSON.

Every character is written by itself, by a letter after a backslash, or by its one or two UTF-16
code units, and a surrogate by one.  Each of these forms reads back before the next one is looked
at, but for a high surrogate with a low one after it, which cannot be told from a character.
-/

namespace TokenAuthority.Json

open Text (CodePoint)

/-! ### Code units -/

theorem radixDigit?_hexDigit {value : Nat} (small : value < 16) :
    Text.radixDigit? (Text.hexDigit value) = some value := by
  have checked : ∀ digit < 16, Text.radixDigit? (Text.hexDigit digit) = some digit := by decide
  exact checked value small

theorem hexDigits_four (unit : Nat) :
    Text.hexDigits 4 unit =
      [Text.hexDigit (unit / 16 / 16 / 16 % 16), Text.hexDigit (unit / 16 / 16 % 16),
        Text.hexDigit (unit / 16 % 16), Text.hexDigit (unit % 16)] := by
  rfl

theorem hexDigit?_hexDigit {value : Nat} (small : value < 16) :
    hexDigit? (.char (Text.hexDigit value)) = some value := by
  simp [hexDigit?, CodePoint.character?, radixDigit?_hexDigit small, small]

theorem hexUnit?_hexDigits {unit : Nat} (small : unit < 0x10000) :
    hexUnit? (.char (Text.hexDigit (unit / 16 / 16 / 16 % 16)))
      (.char (Text.hexDigit (unit / 16 / 16 % 16))) (.char (Text.hexDigit (unit / 16 % 16)))
      (.char (Text.hexDigit (unit % 16))) = some unit := by
  have below : ∀ value : Nat, value % 16 < 16 := fun value => Nat.mod_lt value (by decide)
  have value : (((unit / 16 / 16 / 16 % 16) * 16 + unit / 16 / 16 % 16) * 16 +
      unit / 16 % 16) * 16 + unit % 16 = unit := by
    omega
  unfold hexUnit?
  simp only [hexDigit?_hexDigit (below _), Option.bind_eq_bind, Option.bind_some, Option.pure_def,
    value]

/-! ### Single steps of the reader -/

variable {read rest : Text} {pending : Option (Fin 0x400)}

theorem readText?_quote :
    readText? read pending (.char '"' :: rest) = some ((flush read pending).reverse, rest) := by
  rw [readText?]
  · rfl
  · simp
  · simp

theorem readText?_plain {character : Char} (notQuote : character ≠ '"')
    (notBackslash : character ≠ '\\') (visible : 0x20 ≤ character.toNat) :
    readText? read pending (.char character :: rest) =
      readText? (.char character :: flush read pending) none rest := by
  have inRange : ¬(character.toNat < 0x20 ∨ character = '\\') := by
    simp only [not_or, Nat.not_lt]
    exact ⟨visible, notBackslash⟩
  rw [readText?, if_neg notQuote, if_neg inRange]
  · intros
    simp_all
  · intros
    simp_all

theorem readText?_letter {letter character : Char} (notUnit : letter ≠ 'u')
    (named : escapedCharacter? letter = some character) :
    readText? read pending (.char '\\' :: .char letter :: rest) =
      readText? (.char character :: flush read pending) none rest := by
  rw [readText?, named]
  intros
  simp_all

/-- An escaped code unit is a code point, or the second half of one. -/
theorem readText?_unitEscape {code : CodePoint} (basic : code.value < 0x10000) :
    readText? read pending (Text.ofChars (unitEscape code.value) ++ rest) =
      match code, pending with
      | .low low, some high => readText? (.char (CodePoint.ofPair high low) :: read) none rest
      | .high next, _ => readText? (flush read pending) (some next) rest
      | code, _ => readText? (code :: flush read pending) none rest := by
  rw [unitEscape, hexDigits_four]
  simp only [Text.ofChars_cons, Text.ofChars_nil, List.cons_append, List.nil_append]
  rw [readText?, hexUnit?_hexDigits basic]
  simp only [CodePoint.ofNat_value]
  cases code <;> cases pending <;> rfl

/-! ### Code points -/

/-- An escaped character is read as that character, be it of one code unit or of two. -/
theorem readText?_characterEscape (character : Char) :
    readText? read pending (Text.ofChars (characterEscape character.toNat) ++ rest) =
      readText? (.char character :: flush read pending) none rest := by
  unfold characterEscape
  by_cases basic : character.toNat < 0x10000
  · rw [if_pos basic]
    exact readText?_unitEscape (show (CodePoint.char character).value < 0x10000 from basic)
  · obtain ⟨high, low, isPair, highUnit, lowUnit⟩ := CodePoint.exists_pair (Nat.not_lt.mp basic)
    have highBasic : (CodePoint.high high).value < 0x10000 := by
      rw [CodePoint.value]
      omega
    have lowBasic : (CodePoint.low low).value < 0x10000 := by
      rw [CodePoint.value]
      omega
    rw [if_neg basic, ← highUnit, ← lowUnit, Text.ofChars_append, List.append_assoc,
      readText?_unitEscape highBasic]
    show readText? (flush read pending) (some high) _ = _
    rw [readText?_unitEscape lowBasic]
    show readText? (.char (CodePoint.ofPair high low) :: flush read pending) none rest = _
    rw [isPair]

/-- Whether a character is printable ASCII. -/
def IsPrintable (character : Char) : Prop :=
  0x20 ≤ character.toNat ∧ character.toNat < 0x7f

instance (character : Char) : Decidable (IsPrintable character) :=
  inferInstanceAs (Decidable (0x20 ≤ character.toNat ∧ character.toNat < 0x7f))

theorem isPrintable_of_mem {characters : List Char} {character : Char}
    (printable : characters.all (fun other => decide (IsPrintable other)) = true)
    (membership : character ∈ characters) : IsPrintable character :=
  of_decide_eq_true (List.all_eq_true.mp printable character membership)

/-- The three forms in which a character is written. -/
theorem writeCharacter_cases (character : Char) :
    (∃ letter, letter ≠ 'u' ∧ escapedCharacter? letter = some character ∧ IsPrintable letter ∧
        writeCharacter character = ['\\', letter]) ∨
      (character ≠ '"' ∧ character ≠ '\\' ∧ IsPrintable character ∧
        writeCharacter character = [character]) ∨
      writeCharacter character = characterEscape character.toNat := by
  have lettered : ∀ {letter named : Char}, letter ≠ 'u' → escapedCharacter? letter = some named →
      IsPrintable letter → character = named →
      ∃ other, other ≠ 'u' ∧ escapedCharacter? other = some character ∧ IsPrintable other ∧
        ['\\', letter] = ['\\', other] := by
    intro letter named notUnit escaped printable same
    exact ⟨letter, notUnit, same ▸ escaped, printable, rfl⟩
  unfold writeCharacter
  split
  · next same => exact .inl (lettered (by decide) rfl (by decide) same)
  split
  · next same => exact .inl (lettered (by decide) rfl (by decide) same)
  split
  · next same => exact .inl (lettered (by decide) rfl (by decide) same)
  split
  · next same => exact .inl (lettered (by decide) rfl (by decide) same)
  split
  · next same => exact .inl (lettered (by decide) rfl (by decide) same)
  split
  · next same => exact .inl (lettered (by decide) rfl (by decide) same)
  split
  · next same => exact .inl (lettered (by decide) rfl (by decide) same)
  split
  · next notQuote notBackslash _ _ _ _ _ printable =>
      exact .inr (.inl ⟨notQuote, notBackslash, printable, rfl⟩)
  · exact .inr (.inr rfl)

theorem readText?_writeCharacter (character : Char) :
    readText? read pending (Text.ofChars (writeCharacter character) ++ rest) =
      readText? (.char character :: flush read pending) none rest := by
  rcases writeCharacter_cases character with
    ⟨letter, notUnit, escaped, -, written⟩ | ⟨notQuote, notBackslash, printable, written⟩ | written
  · rw [written]
    exact readText?_letter notUnit escaped
  · rw [written]
    exact readText?_plain notQuote notBackslash printable.1
  · rw [written]
    exact readText?_characterEscape character

/-- The text that a high surrogate held back stands for. -/
def pendingText : Option (Fin 0x400) → Text
  | some high => [.high high]
  | none => []

theorem reverse_flush (read : Text) (pending : Option (Fin 0x400)) :
    (flush read pending).reverse = read.reverse ++ pendingText pending := by
  cases pending <;> simp [flush, pendingText]

theorem join_pendingText_append (pending : Option (Fin 0x400)) {code : CodePoint}
    (notLow : ∀ high, ¬(CodePoint.high high).ArePair code) (others : Text) :
    Text.join (pendingText pending ++ code :: others) =
      pendingText pending ++ Text.join (code :: others) := by
  cases pending with
  | none => rfl
  | some high => exact Text.join_high high (notLow high) others

/-- A text that was written reads back up to the quote after it, with its surrogates joined. -/
theorem readText?_writeCodePoints (text : Text) :
    readText? read pending (Text.ofChars (text.flatMap writeCodePoint) ++ .char '"' :: rest) =
      some (read.reverse ++ Text.join (pendingText pending ++ text), rest) := by
  induction text generalizing read pending with
  | nil =>
      rw [List.flatMap_nil, Text.ofChars_nil, List.nil_append, List.append_nil, readText?_quote,
        reverse_flush]
      cases pending <;> rfl
  | cons code others inductionHypothesis =>
      rw [List.flatMap_cons, Text.ofChars_append, List.append_assoc]
      cases code with
      | char character =>
          rw [writeCodePoint, readText?_writeCharacter, inductionHypothesis,
            join_pendingText_append pending (fun _ => id), List.reverse_cons, reverse_flush]
          simp [pendingText]
      | high next =>
          have basic : (CodePoint.high next).value < 0x10000 := by
            rw [CodePoint.value]
            omega
          show readText? _ _ (Text.ofChars (unitEscape (CodePoint.high next).value) ++ _) = _
          rw [readText?_unitEscape basic]
          show readText? (flush read pending) (some next) _ = _
          rw [inductionHypothesis, join_pendingText_append pending (fun _ => id), reverse_flush]
          simp [pendingText]
      | low next =>
          have basic : (CodePoint.low next).value < 0x10000 := by
            rw [CodePoint.value]
            omega
          show readText? _ _ (Text.ofChars (unitEscape (CodePoint.low next).value) ++ _) = _
          rw [readText?_unitEscape basic]
          cases pending with
          | none =>
              show readText? (.low next :: read) none _ = _
              rw [inductionHypothesis, List.reverse_cons]
              simp [pendingText]
          | some high =>
              show readText? (.char (CodePoint.ofPair high next) :: read) none _ = _
              rw [inductionHypothesis, List.reverse_cons]
              simp [pendingText, Text.join]

theorem ofChars_writeText_append (text rest : Text) :
    Text.ofChars (writeText text) ++ rest =
      .char '"' :: (Text.ofChars (text.flatMap writeCodePoint) ++ .char '"' :: rest) := by
  simp [writeText]

/-! ### Printable characters -/

theorem isPrintable_hexDigit {value : Nat} (small : value < 16) :
    IsPrintable (Text.hexDigit value) := by
  have checked : ∀ digit < 16, IsPrintable (Text.hexDigit digit) := by decide
  exact checked value small

theorem isPrintable_of_mem_unitEscape {unit : Nat} {character : Char}
    (membership : character ∈ unitEscape unit) : IsPrintable character := by
  rcases List.mem_cons.mp membership with rfl | membership
  · decide
  · rcases List.mem_cons.mp membership with rfl | membership
    · decide
    · obtain ⟨digit, small, rfl⟩ := Text.exists_of_mem_hexDigits membership
      exact isPrintable_hexDigit small

theorem isPrintable_of_mem_writeCharacter {written character : Char}
    (membership : character ∈ writeCharacter written) : IsPrintable character := by
  rcases writeCharacter_cases written with
    ⟨letter, -, -, printable, isWritten⟩ | ⟨-, -, printable, isWritten⟩ | isWritten
  · rw [isWritten] at membership
    rcases List.mem_cons.mp membership with rfl | isLetter
    · decide
    · rwa [List.mem_singleton.mp isLetter]
  · rw [isWritten] at membership
    rwa [List.mem_singleton.mp membership]
  · rw [isWritten, characterEscape] at membership
    split at membership
    · exact isPrintable_of_mem_unitEscape membership
    · rcases List.mem_append.mp membership with inHigh | inLow
      · exact isPrintable_of_mem_unitEscape inHigh
      · exact isPrintable_of_mem_unitEscape inLow

theorem isPrintable_of_mem_writeText {text : Text} {character : Char}
    (membership : character ∈ writeText text) : IsPrintable character := by
  unfold writeText at membership
  rw [List.cons_append, List.mem_cons, List.mem_append, List.mem_singleton,
    List.mem_flatMap] at membership
  rcases membership with rfl | ⟨code, -, inCode⟩ | rfl
  · decide
  · cases code with
    | char written => exact isPrintable_of_mem_writeCharacter inCode
    | high index => exact isPrintable_of_mem_unitEscape inCode
    | low index => exact isPrintable_of_mem_unitEscape inCode
  · decide

end TokenAuthority.Json
