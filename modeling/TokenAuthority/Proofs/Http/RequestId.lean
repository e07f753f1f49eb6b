import TokenAuthority.Http.RequestId
import TokenAuthority.Proofs.Number.Hexadecimal
import TokenAuthority.Proofs.Service.Call
import TokenAuthority.Proofs.Token.Canonical

/-!
Which identifier a request has.

A header carries an identifier when its value is one, but for blanks around it.  The identifier of a
request is the one that its own header carries, or else the one that the header for correlation
carries, or else a fresh one.  Once it is assigned, whoever asks for it is told the same.
-/

namespace TokenAuthority

namespace Http.RequestId

variable {headers : Headers} {name id : String}

/-- A letter or digit of ASCII, or one of four marks. -/
def IsHarmless (character : Char) : Prop :=
  'A' ≤ character ∧ character ≤ 'Z' ∨ 'a' ≤ character ∧ character ≤ 'z' ∨
    '0' ≤ character ∧ character ≤ '9' ∨ character ∈ ['.', '_', ':', '-']

/-- A text that may identify a request. -/
structure IsIdentifier (text : String) : Prop where
  nonempty : 1 ≤ text.length
  short : text.length ≤ 128
  harmless : ∀ character ∈ text.toList, IsHarmless character

theorem isAllowed_iff {character : Char} : isAllowed character = true ↔ IsHarmless character := by
  unfold isAllowed IsHarmless Char.isAlphanum Char.isAlpha Char.isUpper Char.isLower Char.isDigit
  simp only [Bool.or_eq_true, Bool.and_eq_true, decide_eq_true_eq, ge_iff_le, or_assoc]
  exact Iff.rfl

theorem isWellFormed_iff {text : String} : isWellFormed text = true ↔ IsIdentifier text := by
  have nonempty_iff : text.isEmpty = false ↔ 1 ≤ text.length := by
    rw [Bool.eq_false_iff, ne_eq, String.isEmpty_iff, ← String.length_eq_zero_iff]
    exact Nat.one_le_iff_ne_zero.symm
  unfold isWellFormed lengthLimit
  simp only [Bool.and_eq_true, Bool.not_eq_true', decide_eq_true_eq, List.all_eq_true,
    isAllowed_iff, nonempty_iff]
  constructor
  · rintro ⟨⟨nonempty, short⟩, harmless⟩
    exact ⟨nonempty, short, harmless⟩
  · intro identifier
    exact ⟨⟨identifier.nonempty, identifier.short⟩, identifier.harmless⟩

theorem IsHarmless.isPrinted {character : Char} (harmless : IsHarmless character) :
    0x21 ≤ character.toNat ∧ character.toNat ≤ 0x7e := by
  unfold IsHarmless at harmless
  simp only [Char.le_def, UInt32.le_iff_toNat_le] at harmless
  rcases harmless with ⟨above, below⟩ | ⟨above, below⟩ | ⟨above, below⟩ | isMark
  · exact ⟨Nat.le_trans (by decide) above, Nat.le_trans below (by decide)⟩
  · exact ⟨Nat.le_trans (by decide) above, Nat.le_trans below (by decide)⟩
  · exact ⟨Nat.le_trans (by decide) above, Nat.le_trans below (by decide)⟩
  · simp only [List.mem_cons, List.not_mem_nil, or_false] at isMark
    rcases isMark with rfl | rfl | rfl | rfl <;> decide

theorem IsHarmless.not_isBlank {character : Char} (harmless : IsHarmless character) :
    Text.isBlank character = false := by
  obtain ⟨above, below⟩ := harmless.isPrinted
  unfold Text.isBlank
  simp only [Bool.or_eq_false_iff, Bool.and_eq_false_iff, decide_eq_false_iff_not,
    beq_eq_false_iff_ne]
  omega

/-- Whether a header carries an identifier, which may stand between blanks. -/
def Carries (headers : Headers) (name id : String) : Prop :=
  IsIdentifier id ∧ ∃ value before after, headers.find? name = some value ∧
    value.toList = before ++ id.toList ++ after ∧
    ∀ character ∈ before ++ after, Text.isBlank character = true

theorem carries_iff :
    Carries headers name id ↔
      ((headers.find? name).map Text.trim).filter isWellFormed = some id := by
  unfold Carries
  cases headers.find? name with
  | none => simp
  | some value =>
      rw [Option.map_some, Option.filter_eq_some_iff, isWellFormed_iff, and_comm]
      apply and_congr_left
      intro identifier
      rw [Option.some.injEq]
      constructor
      · rintro ⟨_, before, after, same, padded, blank⟩
        cases same
        unfold Text.trim
        rw [padded, Text.stripWhile_append_append blank fun character membership =>
          (identifier.harmless character membership).not_isBlank, String.ofList_toList]
      · rintro rfl
        obtain ⟨before, after, padded, blank⟩ :=
          Text.exists_eq_append_stripWhile Text.isBlank value.toList
        refine ⟨value, before, after, rfl, ?_, blank⟩
        rw [Text.trim, String.toList_ofList]
        exact padded

/-- Which identifier a request has when some were drawn earlier, and how many are drawn then. -/
inductive Identifies (headers : Headers) (ids : IdSource) (earlier : Nat) :
    String → Nat → Prop where
  | own {id : String} (carried : Carries headers "X-Request-ID" id) :
      Identifies headers ids earlier id earlier
  | correlated {id : String} (noOwn : ∀ other, ¬Carries headers "X-Request-ID" other)
      (carried : Carries headers "X-Correlation-ID" id) : Identifies headers ids earlier id earlier
  | fresh (noOwn : ∀ other, ¬Carries headers "X-Request-ID" other)
      (notCorrelated : ∀ other, ¬Carries headers "X-Correlation-ID" other) :
      Identifies headers ids earlier (ids.request earlier) (earlier + 1)

theorem incoming?_eq (headers : Headers) :
    incoming? headers =
      (((headers.find? "X-Request-ID").map Text.trim).filter isWellFormed).or
        (((headers.find? "X-Correlation-ID").map Text.trim).filter isWellFormed) := by
  unfold incoming? headerNames
  simp only [List.findSome?_cons, List.findSome?_nil]
  cases ((headers.find? "X-Request-ID").map Text.trim).filter isWellFormed with
  | some id => rfl
  | none => cases ((headers.find? "X-Correlation-ID").map Text.trim).filter isWellFormed <;> rfl

/-- The identifier that is chosen is the one that the request has. -/
theorem exists_choose_eq (headers : Headers) (world : World) :
    ∃ id drawn, choose headers world = (id, { world with requestsDrawn := drawn }) ∧
      Identifies headers world.ids world.requestsDrawn id drawn := by
  have noneOf : ∀ {name}, ((headers.find? name).map Text.trim).filter isWellFormed = none →
      ∀ other, ¬Carries headers name other := by
    intro name isNone other carried
    rw [carries_iff, isNone] at carried
    cases carried
  unfold choose
  rw [incoming?_eq]
  cases own : ((headers.find? "X-Request-ID").map Text.trim).filter isWellFormed with
  | some id => exact ⟨id, world.requestsDrawn, rfl, .own (carries_iff.mpr own)⟩
  | none =>
      cases correlated :
          ((headers.find? "X-Correlation-ID").map Text.trim).filter isWellFormed with
      | some id =>
          exact ⟨id, world.requestsDrawn, rfl, .correlated (noneOf own)
            (carries_iff.mpr correlated)⟩
      | none =>
          exact ⟨_, world.requestsDrawn + 1, rfl, .fresh (noneOf own) (noneOf correlated)⟩

theorem isHarmless_of_mem_characters {value : Nat} {character : Char}
    (membership : character ∈ TokenId.characters value) : IsHarmless character := by
  rcases TokenId.exists_of_mem_characters membership with rfl | ⟨digit, small, rfl⟩
  · exact isAllowed_iff.mp (by decide)
  · have checked : ∀ digit < 16, isAllowed (Text.hexDigit digit) = true := by decide
    exact isAllowed_iff.mp (checked digit small)

theorem isIdentifier_of_isCanonical {text : String} (canonical : TokenId.isCanonical text = true) :
    IsIdentifier text := by
  obtain ⟨id, spelled⟩ := TokenId.exists_text_of_isCanonical canonical
  have isText : text = String.ofList (TokenId.characters id.value) := by
    apply Text.ofString_injective
    rw [Text.ofString_ofList, ← spelled, TokenId.text]
  have length : text.length = 36 := by
    rw [isText, String.length_ofList, ← Text.length_ofChars, ← TokenId.text, id.length_text]
  refine ⟨by omega, by omega, ?_⟩
  intro character membership
  rw [isText, String.toList_ofList] at membership
  exact isHarmless_of_mem_characters membership

theorem Identifies.isIdentifier {ids : IdSource} {earlier drawn : Nat}
    (identifies : Identifies headers ids earlier id drawn)
    (canonical : ∀ count, TokenId.isCanonical (ids.request count) = true) : IsIdentifier id := by
  cases identifies with
  | own carried => exact carried.1
  | correlated _ carried => exact carried.1
  | fresh => exact isIdentifier_of_isCanonical (canonical earlier)

/-! ### Asking for the identifier -/

end Http.RequestId

/-- Whether a request is being served that has an identifier. -/
def World.Serves (world : World) (requestId : String) : Prop :=
  ∃ scope, world.scope = some scope ∧ scope.requestId = some requestId

theorem World.Serves.withReports {world : World} {requestId : String}
    (assigned : world.Serves requestId) (reports : List Log.Event) :
    (world.withReports reports).Serves requestId := assigned

namespace Http.RequestId

variable {world : World} {requestId : String} (assigned : world.Serves requestId)

include assigned

theorem ensure_of_serves : ensure world = (requestId, world) := by
  obtain ⟨scope, served, isAssigned⟩ := assigned
  unfold ensure
  simp only [served, isAssigned]

theorem stamp_of_serves {own : Json} (unset : own.isUnset = true) :
    stamp own world = (.text requestId, world) := by
  obtain ⟨scope, served, -⟩ := id assigned
  unfold stamp
  rw [unset, served, ensure_of_serves assigned]
  rfl

end Http.RequestId

namespace Http.RequestId

/-- The identifier of a request is chosen where it is first asked for. -/
theorem exists_ensure_eq {world : World} {scope : RequestScope} (served : world.scope = some scope)
    (unassigned : scope.requestId = none) :
    ∃ id drawn, ensure world =
        (id, { world with
          requestsDrawn := drawn, scope := some { scope with requestId := some id } }) ∧
      Identifies scope.headers world.ids world.requestsDrawn id drawn := by
  obtain ⟨id, drawn, chosen, identifies⟩ := exists_choose_eq scope.headers world
  refine ⟨id, drawn, ?_, identifies⟩
  unfold ensure
  simp only [served, unassigned, chosen]

end Http.RequestId

end TokenAuthority
