import TokenAuthority.Proofs.Json.RoundTrip
import TokenAuthority.Token.Compact

/-!
Reading back a value from the octets of its text.

Printable characters are single octets, none of them zero and none of them the beginning of a byte
order mark, so that a text of them is read as UTF-8 and gives its characters back.
-/

namespace TokenAuthority.Json

open TokenAuthority.Compact (asciiOctets)

/-- The octet of a printable character. -/
theorem toNat_octet {character : Char} (printable : IsPrintable character) :
    (UInt8.ofNat character.toNat).toNat = character.toNat := by
  rw [UInt8.toNat_ofNat']
  exact Nat.mod_eq_of_lt (Nat.lt_trans printable.2 (by decide))

theorem octet_ne {character : Char} (printable : IsPrintable character) {octet : UInt8}
    (unprintable : octet = 0 ∨ 0x7f ≤ octet.toNat) : UInt8.ofNat character.toNat ≠ octet := by
  intro same
  have value := toNat_octet printable
  rw [same] at value
  obtain ⟨atLeast, below⟩ := printable
  rcases unprintable with rfl | above
  · rw [UInt8.toNat_zero] at value
    omega
  · omega

/-- A text of printable characters has no byte order mark and no zeros. -/
theorem detect_asciiOctets {characters : List Char}
    (printable : ∀ character ∈ characters, IsPrintable character) :
    detect (asciiOctets characters) = (.utf8, asciiOctets characters) := by
  have apart : ∀ octet ∈ asciiOctets characters, octet ≠ 0 ∧ octet ≠ 0xff ∧ octet ≠ 0xfe ∧
      octet ≠ 0xef := by
    intro octet membership
    obtain ⟨character, isIn, rfl⟩ := List.mem_map.mp membership
    have isPrintable := printable character isIn
    exact ⟨octet_ne isPrintable (.inl rfl), octet_ne isPrintable (.inr (by decide)),
      octet_ne isPrintable (.inr (by decide)), octet_ne isPrintable (.inr (by decide))⟩
  generalize asciiOctets characters = octets at apart
  have unmarked : detectUnmarked octets = .utf8 := by
    unfold detectUnmarked
    split
    · simp_all
    · simp_all
    · rfl
  unfold detect
  split
  · simp_all
  · simp_all
  · simp_all
  · simp_all
  · simp_all
  · rw [unmarked]

theorem decodeLoop?_asciiOctets {characters : List Char}
    (printable : ∀ character ∈ characters, IsPrintable character) (read : Text) :
    Utf8.decodeLoop? (fun code => some (Text.CodePoint.ofNat code)) 0 read
      (asciiOctets characters) = some (read.reverse ++ Text.ofChars characters) := by
  induction characters generalizing read with
  | nil => simp [asciiOctets, Utf8.decodeLoop?]
  | cons character others inductionHypothesis =>
      have isPrintable := printable character List.mem_cons_self
      have value := toNat_octet isPrintable
      have isAscii : UInt8.ofNat character.toNat < 0x80 := by
        rw [UInt8.lt_iff_toNat_lt, value]
        exact Nat.lt_trans isPrintable.2 (by decide)
      have decoded : Text.CodePoint.ofNat character.toNat = .char character :=
        Text.CodePoint.ofNat_value (.char character)
      have stepped : ∀ after, Utf8.step (UInt8.ofNat character.toNat) after =
          .scalar character.toNat 1 := by
        intro after
        unfold Utf8.step
        rw [if_pos isAscii, value]
      have restPrintable := fun other membership =>
        printable other (List.mem_cons_of_mem character membership)
      rw [asciiOctets, List.map_cons, Utf8.decodeLoop?]
      simp only [stepped, decoded]
      rw [← asciiOctets, inductionHypothesis restPrintable]
      simp

/-- A text of printable characters is read from its octets as from its characters. -/
theorem readOctets_asciiOctets {characters : List Char}
    (printable : ∀ character ∈ characters, IsPrintable character) (depth : Nat) :
    readOctets depth (asciiOctets characters) = read depth (Text.ofChars characters) := by
  have decoded := decodeLoop?_asciiOctets printable []
  unfold readOctets
  simp only [detect_asciiOctets printable, Encoding.decode?, Utf8.decodeLenient?, decoded]
  rfl

/-- A value that is readable within a depth is read back from the octets of its text. -/
theorem readOctets_write {layout : Layout} (separates : layout.Separates) {value : Json}
    {depth : Nat} (readable : IsReadable depth value) :
    readOctets depth (asciiOctets (write layout value)) = .ok (joined value) := by
  rw [readOctets_asciiOctets (isPrintable_of_mem_write separates value),
    read_write separates readable]

end TokenAuthority.Json
