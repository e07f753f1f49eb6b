import Mathlib.Data.List.TakeWhile
import TokenAuthority.Octets.Base64

/-!
Reading back what was written in base64url.

Sixty-four characters stand for six bits each, none of them a point or a padding.  So a text that
was written from octets has no padding to drop, every character of it gives its six bits back, and
the groups of six bits join to the octets again.
-/

namespace TokenAuthority.Base64

theorem value?_character {value : Nat} (small : value < 64) :
    urlSafe.value? (urlSafe.character value) = some value := by
  have checked : ∀ sextet < 64, urlSafe.value? (urlSafe.character sextet) = some sextet := by
    decide
  exact checked value small

/-- Characters are neither points nor padding. -/
theorem character_ne_mark {value : Nat} (small : value < 64) :
    urlSafe.character value ≠ '.' ∧ urlSafe.character value ≠ '=' := by
  have checked : ∀ sextet < 64,
      urlSafe.character sextet ≠ '.' ∧ urlSafe.character sextet ≠ '=' := by
    decide
  exact checked value small

theorem lt_of_mem_sextets {octets : Octets} {value : Nat} (membership : value ∈ sextets octets) :
    value < 64 := by
  induction octets using sextets.induct with
  | case1 => simp [sextets] at membership
  | case2 first =>
      have bound := first.toNat_lt
      simp only [sextets, List.mem_cons, List.not_mem_nil, or_false] at membership
      omega
  | case3 first second =>
      have firstBound := first.toNat_lt
      have secondBound := second.toNat_lt
      simp only [sextets, List.mem_cons, List.not_mem_nil, or_false] at membership
      omega
  | case4 first second third rest inductionHypothesis =>
      have firstBound := first.toNat_lt
      have secondBound := second.toNat_lt
      have thirdBound := third.toNat_lt
      simp only [sextets, List.mem_cons] at membership
      rcases membership with isFirst | isSecond | isThird | isFourth | inRest
      · omega
      · omega
      · omega
      · omega
      · exact inductionHypothesis inRest

/-- An octet is told by its number. -/
theorem ofNat_eq_of_eq {octet : UInt8} {value : Nat} (equal : value = octet.toNat) :
    UInt8.ofNat value = octet := by
  rw [equal, UInt8.ofNat_toNat]

theorem octets?_sextets (octets : Octets) : octets? (sextets octets) = some octets := by
  induction octets using sextets.induct with
  | case1 => rfl
  | case2 first =>
      have bound := first.toNat_lt
      have noRest : first.toNat % 4 * 16 % 16 = 0 := by omega
      rw [sextets, octets?, if_pos noRest, ofNat_eq_of_eq]
      omega
  | case3 first second =>
      have firstBound := first.toNat_lt
      have secondBound := second.toNat_lt
      have noRest : second.toNat % 16 * 4 % 4 = 0 := by omega
      have isFirst : first.toNat / 4 * 4 +
          (first.toNat % 4 * 16 + second.toNat / 16) / 16 = first.toNat := by omega
      have isSecond : (first.toNat % 4 * 16 + second.toNat / 16) % 16 * 16 +
          second.toNat % 16 * 4 / 4 = second.toNat := by omega
      rw [sextets, octets?, if_pos noRest, ofNat_eq_of_eq isFirst, ofNat_eq_of_eq isSecond]
  | case4 first second third rest inductionHypothesis =>
      have firstBound := first.toNat_lt
      have secondBound := second.toNat_lt
      have thirdBound := third.toNat_lt
      have isFirst : first.toNat / 4 * 4 +
          (first.toNat % 4 * 16 + second.toNat / 16) / 16 = first.toNat := by omega
      have isSecond : (first.toNat % 4 * 16 + second.toNat / 16) % 16 * 16 +
          (second.toNat % 16 * 4 + third.toNat / 64) / 4 = second.toNat := by omega
      have isThird : (second.toNat % 16 * 4 + third.toNat / 64) % 4 * 64 +
          third.toNat % 64 = third.toNat := by omega
      rw [sextets, octets?, inductionHypothesis, Option.map_some, ofNat_eq_of_eq isFirst,
        ofNat_eq_of_eq isSecond, ofNat_eq_of_eq isThird]

theorem exists_of_mem_encodeUrl {octets : Octets} {character : Char}
    (membership : character ∈ encodeUrl octets) :
    ∃ value < 64, character = urlSafe.character value := by
  obtain ⟨value, isSextet, rfl⟩ := List.mem_map.mp membership
  exact ⟨value, lt_of_mem_sextets isSextet, rfl⟩

theorem point_notMem_encodeUrl (octets : Octets) : '.' ∉ encodeUrl octets := by
  intro membership
  obtain ⟨value, small, isPoint⟩ := exists_of_mem_encodeUrl membership
  exact (character_ne_mark small).1 isPoint.symm

/-- A text without padding has none to drop. -/
theorem dropPadding?_of_notMem {characters : List Char} (clear : '=' ∉ characters) :
    dropPadding? characters = some characters := by
  have kept : characters.reverse.dropWhile (· == '=') = characters.reverse := by
    apply List.dropWhile_eq_self_iff.mpr
    intro nonempty isPadding
    have isLast := List.mem_reverse.mp (List.getElem_mem nonempty)
    rw [beq_iff_eq.mp isPadding] at isLast
    exact clear isLast
  unfold dropPadding?
  rw [kept, List.reverse_reverse]
  simp

theorem mapM_value? {values : List Nat} (small : ∀ value ∈ values, value < 64) :
    (values.map urlSafe.character).mapM urlSafe.value? = some values := by
  induction values with
  | nil => rfl
  | cons value rest inductionHypothesis =>
      have restSmall := fun other membership => small other (List.mem_cons_of_mem value membership)
      rw [List.map_cons, List.mapM_cons, value?_character (small value List.mem_cons_self),
        inductionHypothesis restSmall]
      rfl

/-- Octets written in base64url are read back. -/
theorem decode?_encodeUrl (octets : Octets) : decode? urlSafe (encodeUrl octets) = some octets := by
  have clear : '=' ∉ encodeUrl octets := by
    intro membership
    obtain ⟨value, small, isPadding⟩ := exists_of_mem_encodeUrl membership
    exact (character_ne_mark small).2 isPadding.symm
  have values : (encodeUrl octets).mapM urlSafe.value? = some (sextets octets) :=
    mapM_value? fun value membership => lt_of_mem_sextets membership
  unfold decode?
  rw [dropPadding?_of_notMem clear, Option.bind_eq_bind, Option.bind_some, values]
  exact octets?_sextets octets

end TokenAuthority.Base64
