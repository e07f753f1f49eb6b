import TokenAuthority.Proofs.Store.Pattern

/-!
What patterns mean.

`Denotes` says which texts a pattern stands for, by one rule for each mark.  To read a pattern
into its elements and to try these one after the other, stars with every end of the text,
decides just that.
-/

namespace TokenAuthority.Pattern

open Text (CodePoint)

/-- Whether text are among those that a pattern stands for. -/
inductive Denotes : Text → Text → Prop where
  | nothing : Denotes [] []
  | anySequence {pattern text : Text} (passed : Text) :
      Denotes pattern text → Denotes (.char '*' :: pattern) (passed ++ text)
  | anyOne {pattern text : Text} (code : CodePoint) :
      Denotes pattern text → Denotes (.char '?' :: pattern) (code :: text)
  | quoted {pattern text : Text} (code : CodePoint) :
      Denotes pattern text →
      Denotes (.char '\\' :: code :: pattern) (code :: text)
  | ofClass {body pattern text : Text} {ranges : List (CodePoint × CodePoint)} (code : CodePoint) :
      (∀ others, body ≠ .char '^' :: others) →
      readRanges body.length [] body = (ranges, pattern) →
      inRanges ranges code = true →
      Denotes pattern text → Denotes (.char '[' :: body) (code :: text)
  | outsideClass {body pattern text : Text} {ranges : List (CodePoint × CodePoint)}
      (code : CodePoint) :
      readRanges body.length [] body = (ranges, pattern) →
      inRanges ranges code = false →
      Denotes pattern text → Denotes (.char '[' :: .char '^' :: body) (code :: text)
  | itself {pattern text : Text} (code : CodePoint) :
      code ∉ ([.char '*', .char '?', .char '['] : Text) →
      (code = .char '\\' → pattern = []) →
      Denotes pattern text → Denotes (code :: pattern) (code :: text)

/-! ### The rules, read backwards -/

section Inversion

variable {pattern text : Text}

theorem denotes_nil_iff : Denotes [] text ↔ text = [] := by
  constructor
  · intro denotes
    cases denotes
    rfl
  · rintro rfl
    exact .nothing

theorem denotes_anySequence_iff :
    Denotes (.char '*' :: pattern) text ↔
      ∃ passed rest, text = passed ++ rest ∧ Denotes pattern rest := by
  constructor
  · intro denotes
    cases denotes with
    | anySequence passed remaining => exact ⟨passed, _, rfl, remaining⟩
    | itself _ unmarked => simp at unmarked
  · rintro ⟨passed, rest, rfl, remaining⟩
    exact .anySequence passed remaining

theorem denotes_anyOne_iff :
    Denotes (.char '?' :: pattern) text ↔
      ∃ code rest, text = code :: rest ∧ Denotes pattern rest := by
  constructor
  · intro denotes
    cases denotes with
    | anyOne code remaining => exact ⟨code, _, rfl, remaining⟩
    | itself _ unmarked => simp at unmarked
  · rintro ⟨code, rest, rfl, remaining⟩
    exact .anyOne code remaining

theorem denotes_quoted_iff {code : CodePoint} :
    Denotes (.char '\\' :: code :: pattern) text ↔
      ∃ rest, text = code :: rest ∧ Denotes pattern rest := by
  constructor
  · intro denotes
    cases denotes with
    | quoted _ remaining => exact ⟨_, rfl, remaining⟩
    | itself _ _ atEnd => exact absurd (atEnd rfl) (List.cons_ne_nil _ _)
  · rintro ⟨rest, rfl, remaining⟩
    exact .quoted code remaining

theorem denotes_ofClass_iff {body : Text} {ranges : List (CodePoint × CodePoint)}
    (positive : ∀ others, body ≠ .char '^' :: others)
    (read : readRanges body.length [] body = (ranges, pattern)) :
    Denotes (.char '[' :: body) text ↔
      ∃ code rest, text = code :: rest ∧ inRanges ranges code = true ∧
        Denotes pattern rest := by
  constructor
  · intro denotes
    cases denotes with
    | ofClass code _ alsoRead inside remaining =>
        rw [read, Prod.mk.injEq] at alsoRead
        obtain ⟨rfl, rfl⟩ := alsoRead
        exact ⟨code, _, rfl, inside, remaining⟩
    | outsideClass => exact absurd rfl (positive _)
    | itself _ unmarked => simp at unmarked
  · rintro ⟨code, rest, rfl, inside, remaining⟩
    exact .ofClass code positive read inside remaining

theorem denotes_outsideClass_iff {body : Text} {ranges : List (CodePoint × CodePoint)}
    (read : readRanges body.length [] body = (ranges, pattern)) :
    Denotes (.char '[' :: .char '^' :: body) text ↔
      ∃ code rest, text = code :: rest ∧ inRanges ranges code = false ∧
        Denotes pattern rest := by
  constructor
  · intro denotes
    cases denotes with
    | ofClass _ positive => exact absurd rfl (positive _)
    | outsideClass code alsoRead outside remaining =>
        rw [read, Prod.mk.injEq] at alsoRead
        obtain ⟨rfl, rfl⟩ := alsoRead
        exact ⟨code, _, rfl, outside, remaining⟩
    | itself _ unmarked => simp at unmarked
  · rintro ⟨code, rest, rfl, outside, remaining⟩
    exact .outsideClass code read outside remaining

theorem denotes_itself_iff {code : CodePoint}
    (unmarked : code ∉ ([.char '*', .char '?', .char '['] : Text))
    (atEnd : code = .char '\\' → pattern = []) :
    Denotes (code :: pattern) text ↔
      ∃ rest, text = code :: rest ∧ Denotes pattern rest := by
  constructor
  · intro denotes
    cases denotes with
    | anySequence => simp at unmarked
    | anyOne => simp at unmarked
    | quoted => exact absurd (atEnd rfl) (List.cons_ne_nil _ _)
    | ofClass => simp at unmarked
    | outsideClass => simp at unmarked
    | itself _ _ _ remaining => exact ⟨_, rfl, remaining⟩
  · rintro ⟨rest, rfl, remaining⟩
    exact .itself code unmarked atEnd remaining

end Inversion

/-! ### Trying the elements -/

theorem holdsOfSuffix_iff {test : Text → Bool} (text : Text) :
    holdsOfSuffix test text = true ↔
      ∃ passed rest, text = passed ++ rest ∧ test rest = true := by
  induction text with
  | nil =>
      constructor
      · intro atEnd
        exact ⟨[], [], rfl, atEnd⟩
      · rintro ⟨passed, rest, equal, holds⟩
        obtain ⟨-, rfl⟩ := List.append_eq_nil_iff.mp equal.symm
        exact holds
  | cons code text inductionHypothesis =>
      rw [holdsOfSuffix, Bool.or_eq_true, inductionHypothesis]
      constructor
      · rintro (here | ⟨passed, rest, rfl, later⟩)
        · exact ⟨[], _, rfl, here⟩
        · exact ⟨code :: passed, rest, rfl, later⟩
      · rintro ⟨passed, rest, equal, holds⟩
        cases passed with
        | nil => exact .inl (equal ▸ holds)
        | cons first passed =>
            obtain ⟨rfl, rfl⟩ := List.cons.inj equal
            exact .inr ⟨passed, rest, rfl, holds⟩

/-- An element other than a star takes one code. -/
theorem fitsAll_cons_iff {element : Element} (single : element ≠ .anySequence)
    (elements : List Element) (text : Text) :
    fitsAll (element :: elements) text = true ↔
      ∃ code rest, text = code :: rest ∧ element.fits code = true ∧
        fitsAll elements rest = true := by
  constructor
  · intro fits
    cases text with
    | nil => cases element <;> simp_all [fitsAll]
    | cons code rest =>
        refine ⟨code, rest, rfl, ?_⟩
        cases element <;> simp_all [fitsAll]
  · rintro ⟨code, rest, rfl, fitsFirst, fitsRest⟩
    cases element <;> simp_all [fitsAll]

theorem fitsAll_literal_cons_iff {code : CodePoint} (elements : List Element)
    (text : Text) :
    fitsAll (.literal code :: elements) text = true ↔
      ∃ rest, text = code :: rest ∧ fitsAll elements rest = true := by
  rw [fitsAll_cons_iff (by simp)]
  simp only [Element.fits, beq_iff_eq]
  constructor
  · rintro ⟨found, rest, rfl, rfl, fitsRest⟩
    exact ⟨rest, rfl, fitsRest⟩
  · rintro ⟨rest, rfl, fitsRest⟩
    exact ⟨code, rest, rfl, rfl, fitsRest⟩

theorem length_readRanges_le (bound : Nat) (ranges : List (CodePoint × CodePoint)) (text : Text) :
    (readRanges bound ranges text).2.length ≤ text.length := by
  fun_induction readRanges bound ranges text <;> simp_all <;> omega

theorem readElements_itself {code : CodePoint} {pattern : Text}
    (unmarked : code ∉ ([.char '*', .char '?', .char '['] : Text))
    (atEnd : code = .char '\\' → pattern = [])
    (bound : Nat) :
    readElements (bound + 1) (code :: pattern) =
      .literal code :: readElements bound pattern := by
  simp only [List.mem_cons, List.not_mem_nil, or_false, not_or] at unmarked
  obtain ⟨noStar, noMark, noBracket⟩ := unmarked
  rw [readElements] <;> simp_all

theorem readElements_ofClass {body pattern : Text} {ranges : List (CodePoint × CodePoint)}
    (positive : ∀ others, body ≠ .char '^' :: others)
    (read : readRanges body.length [] body = (ranges, pattern)) (bound : Nat) :
    readElements (bound + 1) (.char '[' :: body) =
      .oneOf false ranges :: readElements bound pattern := by
  rw [readElements]
  · simp only [read]
  · exact positive

theorem readElements_outsideClass {body pattern : Text} {ranges : List (CodePoint × CodePoint)}
    (read : readRanges body.length [] body = (ranges, pattern)) (bound : Nat) :
    readElements (bound + 1) (.char '[' :: .char '^' :: body) =
      .oneOf true ranges :: readElements bound pattern := by
  rw [readElements]
  simp only [read]

/-- A class is read and tried as its rules say. -/
theorem fitsAll_class_iff {bound : Nat} {body : Text} (enough : body.length ≤ bound)
    (remaining : ∀ pattern : Text, pattern.length ≤ bound → ∀ text,
      fitsAll (readElements bound pattern) text = true ↔ Denotes pattern text)
    (text : Text) :
    fitsAll (readElements (bound + 1) (.char '[' :: body)) text = true ↔
      Denotes (.char '[' :: body) text := by
  by_cases negates : ∃ others, body = .char '^' :: others
  · obtain ⟨others, rfl⟩ := negates
    have shorter := length_readRanges_le others.length [] others
    obtain ⟨⟨ranges, pattern⟩, read⟩ : ∃ result, readRanges others.length [] others = result :=
      ⟨_, rfl⟩
    rw [read] at shorter
    have fewer : pattern.length ≤ bound := Nat.le_trans shorter (Nat.le_of_succ_le enough)
    rw [readElements_outsideClass read, denotes_outsideClass_iff read, fitsAll_cons_iff (by simp)]
    simp [remaining pattern fewer, Element.fits]
  · have positive : ∀ others, body ≠ .char '^' :: others :=
      fun others equal => negates ⟨others, equal⟩
    have shorter := length_readRanges_le body.length [] body
    obtain ⟨⟨ranges, pattern⟩, read⟩ : ∃ result, readRanges body.length [] body = result :=
      ⟨_, rfl⟩
    rw [read] at shorter
    have fewer : pattern.length ≤ bound := Nat.le_trans shorter enough
    rw [readElements_ofClass positive read, denotes_ofClass_iff positive read,
      fitsAll_cons_iff (by simp)]
    simp [remaining pattern fewer, Element.fits]

/-- The elements of a pattern, read under a sufficient bound, fit what the pattern stands for. -/
theorem fitsAll_readElements_iff {bound : Nat} {pattern : Text}
    (enough : pattern.length ≤ bound) (text : Text) :
    fitsAll (readElements bound pattern) text = true ↔ Denotes pattern text := by
  induction bound generalizing pattern text with
  | zero =>
      obtain rfl := List.length_eq_zero_iff.mp (Nat.le_zero.mp enough)
      rw [readElements_nil, denotes_nil_iff]
      exact List.isEmpty_iff
  | succ bound inductionHypothesis =>
      cases pattern with
      | nil =>
          rw [readElements_nil, denotes_nil_iff]
          exact List.isEmpty_iff
      | cons first pattern =>
          have fewer : pattern.length ≤ bound := Nat.le_of_succ_le_succ enough
          by_cases isStar : first = .char '*'
          · subst isStar
            rw [readElements, denotes_anySequence_iff]
            show holdsOfSuffix (fitsAll (readElements bound pattern)) text = true ↔ _
            simp only [holdsOfSuffix_iff, inductionHypothesis fewer]
          by_cases isMark : first = .char '?'
          · subst isMark
            rw [readElements, denotes_anyOne_iff, fitsAll_cons_iff (by simp)]
            simp only [inductionHypothesis fewer, Element.fits, true_and]
          by_cases isBracket : first = .char '['
          · subst isBracket
            exact fitsAll_class_iff fewer (fun _ => inductionHypothesis) text
          by_cases quotes : first = .char '\\' ∧ pattern ≠ []
          · obtain ⟨rfl, goesOn⟩ := quotes
            obtain ⟨code, pattern, rfl⟩ := List.exists_cons_of_ne_nil goesOn
            have fewerStill : pattern.length ≤ bound := Nat.le_of_succ_le fewer
            rw [readElements, denotes_quoted_iff, fitsAll_literal_cons_iff]
            simp only [inductionHypothesis fewerStill]
          · have unmarked : first ∉ ([.char '*', .char '?', .char '['] : Text) := by
              simp [isStar, isMark, isBracket]
            have atEnd : first = .char '\\' → pattern = [] := by simpa using quotes
            rw [readElements_itself unmarked atEnd, denotes_itself_iff unmarked atEnd,
              fitsAll_literal_cons_iff]
            simp only [inductionHypothesis fewer]

/-- A key is matched exactly by the patterns that stand for it. -/
theorem matchesKey_iff_denotes (pattern key : Text) :
    matchesKey pattern key = true ↔ Denotes pattern key :=
  fitsAll_readElements_iff (Nat.le_refl _) key

end TokenAuthority.Pattern
