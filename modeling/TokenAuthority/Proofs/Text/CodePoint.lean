import Mathlib.Data.List.Basic
import TokenAuthority.Text.CodePoint

/-!
Texts and their characters.

A text of characters alone is the text of a string, and determines it.  Joining changes nothing but
pairs of surrogates, so a text without such pairs stays as it is.
-/

namespace TokenAuthority.Text

namespace CodePoint

theorem value_lt (code : CodePoint) : code.value < 0x110000 := by
  cases code with
  | char character =>
      rcases character.valid with below | ⟨-, above⟩
      · exact Nat.lt_trans below (by decide)
      · exact above
  | high index => exact Nat.lt_of_lt_of_le (Nat.add_lt_add_left index.isLt _) (by decide)
  | low index => exact Nat.lt_of_lt_of_le (Nat.add_lt_add_left index.isLt _) (by decide)

@[simp]
theorem ofNat_value (code : CodePoint) : ofNat code.value = code := by
  cases code with
  | char character =>
      have valid := character.valid
      have notHigh : ¬(0xd800 ≤ character.toNat ∧ character.toNat < 0xdc00) := by
        rintro ⟨atLeast, below⟩
        rcases valid with small | ⟨large, -⟩
        · exact absurd small (Nat.not_lt.mpr atLeast)
        · exact absurd large (Nat.not_lt.mpr (Nat.le_of_lt (Nat.lt_trans below (by decide))))
      have notLow : ¬(0xdc00 ≤ character.toNat ∧ character.toNat < 0xe000) := by
        rintro ⟨atLeast, below⟩
        rcases valid with small | ⟨large, -⟩
        · exact absurd small (Nat.not_lt.mpr (Nat.le_trans (by decide) atLeast))
        · exact absurd large (Nat.not_lt.mpr (Nat.le_of_lt_succ below))
      rw [value, ofNat, if_neg notHigh, if_neg notLow, Char.ofNat_toNat]
  | high index =>
      have isHigh : 0xd800 ≤ 0xd800 + index.val ∧ 0xd800 + index.val < 0xdc00 := by omega
      rw [value, ofNat, if_pos isHigh, Nat.add_sub_cancel_left, Fin.ofNat_val_eq_self]
  | low index =>
      have notHigh : ¬(0xd800 ≤ 0xdc00 + index.val ∧ 0xdc00 + index.val < 0xdc00) := by omega
      have isLow : 0xdc00 ≤ 0xdc00 + index.val ∧ 0xdc00 + index.val < 0xe000 := by omega
      rw [value, ofNat, if_neg notHigh, if_pos isLow, Nat.add_sub_cancel_left,
        Fin.ofNat_val_eq_self]

/-- A character beyond the basic plane is the pair of the surrogates that are its code units. -/
theorem exists_pair {character : Char} (beyond : 0x10000 ≤ character.toNat) :
    ∃ high low : Fin 0x400, ofPair high low = character ∧
      (CodePoint.high high).value = 0xd800 + (character.toNat - 0x10000) / 0x400 ∧
      (CodePoint.low low).value = 0xdc00 + (character.toNat - 0x10000) % 0x400 := by
  have limit : character.toNat < 0x110000 := value_lt (.char character)
  refine ⟨⟨(character.toNat - 0x10000) / 0x400, by omega⟩,
    ⟨(character.toNat - 0x10000) % 0x400, Nat.mod_lt _ (by decide)⟩, ?_, rfl, rfl⟩
  have code : 0x10000 + (character.toNat - 0x10000) / 0x400 * 0x400 +
      (character.toNat - 0x10000) % 0x400 = character.toNat := by
    omega
  rw [ofPair, code, Char.ofNat_toNat]

theorem toNat_ofPair (high low : Fin 0x400) :
    (ofPair high low).toNat = 0x10000 + (high * 0x400 + low) := by
  have valid : Nat.isValidChar (0x10000 + high * 0x400 + low) := .inr ⟨by omega, by omega⟩
  rw [ofPair, Char.ofNat, dif_pos valid, ← Nat.add_assoc]
  rfl

theorem char_injective : Function.Injective CodePoint.char := by
  intro left right same
  cases same
  rfl

end CodePoint

/-! ### Texts of strings -/

@[simp]
theorem ofChars_nil : ofChars [] = [] :=
  rfl

@[simp]
theorem ofChars_cons (character : Char) (others : List Char) :
    ofChars (character :: others) = .char character :: ofChars others :=
  rfl

@[simp]
theorem ofChars_append (left right : List Char) :
    ofChars (left ++ right) = ofChars left ++ ofChars right :=
  List.map_append

@[simp]
theorem length_ofChars (characters : List Char) : (ofChars characters).length = characters.length :=
  List.length_map _

theorem ofChars_injective : Function.Injective ofChars :=
  List.map_injective_iff.mpr CodePoint.char_injective

theorem ofString_injective : Function.Injective ofString :=
  ofChars_injective.comp fun _ _ => String.toList_inj.mp

@[simp]
theorem ofString_inj {left right : String} : ofString left = ofString right ↔ left = right :=
  ofString_injective.eq_iff

@[simp]
theorem ofString_beq (left right : String) :
    (ofString left == ofString right) = (left == right) := by
  rw [Bool.eq_iff_iff, beq_iff_eq, beq_iff_eq, ofString_inj]

@[simp]
theorem ofString_empty : ofString "" = [] :=
  rfl

theorem ofString_eq_nil_iff {text : String} : ofString text = [] ↔ text = "" := by
  rw [← ofString_empty, ofString_inj]

@[simp]
theorem ofString_append (left right : String) :
    ofString (left ++ right) = ofString left ++ ofString right := by
  rw [ofString, String.toList_append, ofChars_append]
  rfl

theorem ofString_ofList (characters : List Char) :
    ofString (String.ofList characters) = ofChars characters := by
  rw [ofString, String.toList_ofList]

@[simp]
theorem isEmpty_ofString (text : String) : (ofString text).isEmpty = text.isEmpty := by
  rw [Bool.eq_iff_iff, List.isEmpty_iff, String.isEmpty_iff]
  exact ofString_injective.eq_iff' rfl

@[simp]
theorem characters?_ofChars (characters : List Char) :
    (ofChars characters).characters? = some characters := by
  induction characters with
  | nil => rfl
  | cons character others inductionHypothesis =>
      rw [ofChars_cons, characters?, List.mapM_cons, ← characters?, inductionHypothesis]
      rfl

@[simp]
theorem string?_ofString (text : String) : (ofString text).string? = some text := by
  rw [string?, ofString, characters?_ofChars, Option.map_some, String.ofList_toList]

theorem characters?_eq_some_iff {text : Text} {characters : List Char} :
    text.characters? = some characters ↔ text = ofChars characters := by
  constructor
  · intro isSome
    induction text generalizing characters with
    | nil =>
        cases isSome
        rfl
    | cons code others inductionHypothesis =>
        rw [characters?, List.mapM_cons, ← characters?] at isSome
        cases code with
        | char character =>
            cases rest : characters? others with
            | none =>
                rw [rest] at isSome
                cases isSome
            | some more =>
                rw [rest] at isSome
                cases isSome
                rw [ofChars_cons, inductionHypothesis rest]
        | high index => cases isSome
        | low index => cases isSome
  · rintro rfl
    exact characters?_ofChars characters

theorem string?_eq_some_iff {text : Text} {string : String} :
    text.string? = some string ↔ text = ofString string := by
  rw [string?, Option.map_eq_some_iff]
  constructor
  · rintro ⟨characters, isSome, rfl⟩
    rw [characters?_eq_some_iff.mp isSome, ofString_ofList]
  · rintro rfl
    exact ⟨string.toList, characters?_ofChars _, String.ofList_toList⟩

/-! ### Characters at the front -/

variable {keep : Char → Bool}

/-- Whether no character of a kind stands at the front of a text. -/
def EndsBefore (keep : Char → Bool) (text : Text) : Prop :=
  ∀ character, text.head? = some (.char character) → keep character = false

theorem endsBefore_cons {character : Char} (isOther : keep character = false) (rest : Text) :
    EndsBefore keep (.char character :: rest) := by
  intro other isFirst
  cases isFirst
  exact isOther

theorem splitWhile_of_endsBefore {rest : Text} (ends : EndsBefore keep rest) :
    splitWhile keep rest = ([], rest) := by
  unfold splitWhile
  split
  · next character others => rw [if_neg (by simp [ends character rfl])]
  · rfl

theorem splitWhile_char {character : Char} (isKept : keep character = true) (rest : Text) :
    splitWhile keep (.char character :: rest) =
      (character :: (splitWhile keep rest).1, (splitWhile keep rest).2) := by
  rw [splitWhile, if_pos isKept]

theorem splitWhile_ofChars {front : List Char} {rest : Text}
    (areKept : ∀ character ∈ front, keep character = true) (ends : EndsBefore keep rest) :
    splitWhile keep (ofChars front ++ rest) = (front, rest) := by
  induction front with
  | nil => exact splitWhile_of_endsBefore ends
  | cons character others inductionHypothesis =>
      rw [List.forall_mem_cons] at areKept
      rw [ofChars_cons, List.cons_append, splitWhile_char areKept.1,
        inductionHypothesis areKept.2]

/-! ### Texts that can be encoded -/

@[simp]
theorem isEncodable_append (left right : Text) :
    (left ++ right).isEncodable = (left.isEncodable && right.isEncodable) :=
  List.all_append

@[simp]
theorem isEncodable_ofChars (characters : List Char) : (ofChars characters).isEncodable = true := by
  simp [isEncodable, ofChars, CodePoint.character?]

@[simp]
theorem isEncodable_ofString (text : String) : (ofString text).isEncodable = true :=
  isEncodable_ofChars text.toList

/-- The texts that can be encoded are those of strings. -/
theorem isEncodable_iff {text : Text} :
    text.isEncodable = true ↔ ∃ string : String, text = ofString string := by
  constructor
  · intro encodable
    induction text with
    | nil => exact ⟨"", rfl⟩
    | cons code others inductionHypothesis =>
        rw [isEncodable, List.all_cons, ← isEncodable, Bool.and_eq_true] at encodable
        obtain ⟨string, rfl⟩ := inductionHypothesis encodable.2
        cases code with
        | char character =>
            exact ⟨String.ofList (character :: string.toList), by
              rw [ofString_ofList, ofChars_cons]
              rfl⟩
        | high index => cases encodable.1
        | low index => cases encodable.1
  · rintro ⟨string, rfl⟩
    exact isEncodable_ofString string

theorem string?_eq_none_iff {text : Text} : text.string? = none ↔ text.isEncodable = false := by
  rw [Option.eq_none_iff_forall_ne_some, ← Bool.not_eq_true, isEncodable_iff, not_exists]
  exact forall_congr' fun string => not_congr string?_eq_some_iff

/-! ### Pairs of surrogates -/

namespace CodePoint

/-- Whether two code points are the surrogates of a character. -/
def ArePair : CodePoint → CodePoint → Prop
  | .high _, .low _ => True
  | _, _ => False

instance (code next : CodePoint) : Decidable (ArePair code next) := by
  cases code <;> cases next <;> unfold ArePair <;> infer_instance

end CodePoint

/-- Whether no high surrogate stands right before a low one. -/
def IsUnpaired (text : Text) : Prop :=
  text.IsChain fun code next => ¬code.ArePair next

instance (text : Text) : Decidable text.IsUnpaired :=
  inferInstanceAs (Decidable (text.IsChain fun code next => ¬code.ArePair next))

@[simp]
theorem join_char (character : Char) (rest : Text) :
    join (.char character :: rest) = .char character :: join rest :=
  rfl

@[simp]
theorem join_low (low : Fin 0x400) (rest : Text) :
    join (.low low :: rest) = .low low :: join rest :=
  rfl

theorem join_high {code : CodePoint} (high : Fin 0x400)
    (notPair : ¬(CodePoint.high high).ArePair code)
    (rest : Text) : join (.high high :: code :: rest) = .high high :: join (code :: rest) := by
  cases code with
  | char character => rfl
  | high next => rfl
  | low low => exact absurd trivial notPair

@[simp]
theorem join_ofChars (characters : List Char) : join (ofChars characters) = ofChars characters := by
  induction characters with
  | nil => rfl
  | cons character others inductionHypothesis => rw [ofChars_cons, join_char, inductionHypothesis]

@[simp]
theorem join_ofString (text : String) : join (ofString text) = ofString text :=
  join_ofChars text.toList

/-- Joining leaves exactly the texts as they are that hold no pair of surrogates. -/
theorem join_eq_self_iff {text : Text} : text.join = text ↔ text.IsUnpaired := by
  fun_induction join text with
  | case1 high low rest inductionHypothesis =>
      constructor
      · intro same
        cases same
      · intro unpaired
        exact absurd trivial (List.isChain_cons_cons.mp unpaired).1
  | case2 code rest notPair inductionHypothesis =>
      rw [List.cons.injEq, and_iff_right rfl, inductionHypothesis]
      cases rest with
      | nil => simp [IsUnpaired]
      | cons next others =>
          have unpaired : ¬code.ArePair next := by
            cases code <;> cases next <;> simp_all [CodePoint.ArePair]
          exact ⟨fun chain => List.isChain_cons_cons.mpr ⟨unpaired, chain⟩,
            fun chain => (List.isChain_cons_cons.mp chain).2⟩
  | case3 => simp [IsUnpaired]

theorem isUnpaired_ofString (text : String) : (ofString text).IsUnpaired :=
  join_eq_self_iff.mp (join_ofString text)

theorem join_eq_nil_iff {text : Text} : text.join = [] ↔ text = [] := by
  fun_cases join text <;> simp

/-- The characters of the basic plane are the same before and after joining. -/
theorem mem_join_iff {text : Text} {character : Char} (basic : character.toNat < 0x10000) :
    .char character ∈ text.join ↔ .char character ∈ text := by
  fun_induction join text with
  | case1 high low rest inductionHypothesis =>
      have apart : character ≠ CodePoint.ofPair high low := by
        rintro rfl
        exact absurd basic (Nat.not_lt.mpr (CodePoint.toNat_ofPair high low ▸ Nat.le_add_right _ _))
      simp [inductionHypothesis, apart]
  | case2 code rest notPair inductionHypothesis =>
      rw [List.mem_cons, List.mem_cons, inductionHypothesis]
  | case3 => rfl

/-- A high surrogate with a low one after it is no text that joining leaves alone. -/
example : ¬IsUnpaired [.high 0x3d, .low 0x200] ∧
    join [.high 0x3d, .low 0x200] = ofString "😀" := by
  decide +kernel

end TokenAuthority.Text
