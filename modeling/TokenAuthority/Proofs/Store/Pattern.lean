import TokenAuthority.Proofs.Text.CodePoint
import TokenAuthority.Store.Pattern

/-!
Escaped patterns.

An escaped text is read back as one literal for each of its code points, so the pattern of the keys
that begin with a text fits exactly these keys, whatever the text holds.
-/

namespace TokenAuthority.Pattern

open Text (CodePoint)

theorem isSpecial_iff (code : CodePoint) :
    isSpecial code = true ↔ code = .char '*' ∨ code = .char '?' ∨ code = .char '[' ∨
      code = .char ']' ∨ code = .char '\\' := by
  simp [isSpecial, or_assoc]

theorem escape_cons (code : CodePoint) (rest : Text) :
    escape (code :: rest) =
      (if isSpecial code then [.char '\\', code] else [code]) ++ escape rest := rfl

/-- A code without a meaning in patterns is read as itself. -/
theorem readElements_plain {code : CodePoint} (plain : isSpecial code = false) (bound : Nat)
    (rest : Text) :
    readElements (bound + 1) (code :: rest) =
      .literal code :: readElements bound rest := by
  have unmarked : ¬(code = .char '*' ∨ code = .char '?' ∨ code = .char '[' ∨ code = .char ']' ∨
      code = .char '\\') := by
    rw [← isSpecial_iff, plain]
    exact Bool.false_ne_true
  simp only [not_or] at unmarked
  obtain ⟨noStar, noMark, noBracket, -, noBackslash⟩ := unmarked
  rw [readElements] <;> simp_all

/-- The elements of an escaped text and what follows it. -/
theorem readElements_escape (text : Text) {bound : Nat} (rest : Text)
    (enough : (escape text ++ rest).length ≤ bound) :
    ∃ left, rest.length ≤ left ∧
      readElements bound (escape text ++ rest) = text.map .literal ++ readElements left rest := by
  induction text generalizing bound with
  | nil => exact ⟨bound, enough, rfl⟩
  | cons code others inductionHypothesis =>
      rw [escape_cons, List.append_assoc] at enough ⊢
      cases special : isSpecial code with
      | true =>
          simp only [special, if_true, List.cons_append, List.nil_append, List.length_cons]
            at enough ⊢
          obtain ⟨bound, rfl⟩ : ∃ less, bound = less + 1 := ⟨bound - 1, by omega⟩
          have fewer : (escape others ++ rest).length ≤ bound := by omega
          obtain ⟨left, leftEnough, elements⟩ := inductionHypothesis fewer
          refine ⟨left, leftEnough, ?_⟩
          rw [readElements, elements]
          rfl
      | false =>
          simp only [special, Bool.false_eq_true, if_false, List.cons_append, List.nil_append,
            List.length_cons] at enough ⊢
          obtain ⟨bound, rfl⟩ : ∃ less, bound = less + 1 := ⟨bound - 1, by omega⟩
          have fewer : (escape others ++ rest).length ≤ bound := by omega
          obtain ⟨left, leftEnough, elements⟩ := inductionHypothesis fewer
          refine ⟨left, leftEnough, ?_⟩
          rw [readElements_plain special, elements]
          rfl

theorem readElements_nil (bound : Nat) : readElements bound [] = [] := by
  cases bound <;> rfl

theorem elements_startingWith (start : Text) :
    elements (startingWith start) = start.map .literal ++ [.anySequence] := by
  obtain ⟨left, enough, read⟩ := readElements_escape start [.char '*'] (Nat.le_refl _)
  obtain ⟨left, rfl⟩ : ∃ less, left = less + 1 := ⟨left - 1, by simp at enough; omega⟩
  rw [elements, startingWith, read, readElements, readElements_nil]

theorem holdsOfSuffix_of_nil {test : Text → Bool} (atEnd : test [] = true)
    (text : Text) : holdsOfSuffix test text = true := by
  induction text with
  | nil => exact atEnd
  | cons code rest inductionHypothesis => simp [holdsOfSuffix, inductionHypothesis]

/-- Literals and then anything fit the text that begin with the literals. -/
theorem fitsAll_literals (start text : Text) :
    fitsAll (start.map .literal ++ [.anySequence]) text = start.isPrefixOf text := by
  induction start generalizing text with
  | nil =>
      show holdsOfSuffix (fitsAll []) text = _
      rw [holdsOfSuffix_of_nil rfl]
      cases text <;> rfl
  | cons first rest inductionHypothesis =>
      cases text with
      | nil => rfl
      | cons code others =>
          show (first == code && fitsAll (rest.map .literal ++ [.anySequence]) others) = _
          rw [inductionHypothesis]
          rfl

/-- The pattern of the keys that begin with a text fits these keys and no other. -/
theorem matchesKey_startingWith (start key : Text) :
    matchesKey (startingWith start) key = start.isPrefixOf key := by
  rw [matchesKey, elements_startingWith, fitsAll_literals]

theorem isEncodable_startingWith (start : Text) :
    (startingWith start).isEncodable = start.isEncodable := by
  have escaped : (escape start).isEncodable = start.isEncodable := by
    induction start with
    | nil => rfl
    | cons code rest inductionHypothesis =>
        rw [escape_cons, Text.isEncodable_append, inductionHypothesis]
        cases special : isSpecial code with
        | true => rcases (isSpecial_iff code).mp special with rfl | rfl | rfl | rfl | rfl <;> rfl
        | false => simp [Text.isEncodable]
  rw [startingWith, Text.isEncodable_append, escaped]
  exact Bool.and_true _

end TokenAuthority.Pattern
