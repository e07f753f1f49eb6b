import TokenAuthority.Proofs.Json.Octets
import TokenAuthority.Proofs.Octets.Base64

/-!
Opening a token that was signed.

The three parts of a token hold no points, so that a token comes apart where it was joined.  Its
header names the algorithm of the key, and its payload reads back as what was signed.
-/

namespace TokenAuthority.Compact

theorem splitFirst?_of_notMem {before : List Char} (clear : '.' ∉ before) (after : List Char) :
    splitFirst? (before ++ '.' :: after) = some (before, after) := by
  induction before with
  | nil => rfl
  | cons character rest inductionHypothesis =>
      rw [List.mem_cons, not_or] at clear
      rw [List.cons_append, splitFirst?, if_neg (Ne.symm clear.1), inductionHypothesis clear.2]
      rfl

theorem splitLast?_of_notMem {after : List Char} (clear : '.' ∉ after) (before : List Char) :
    splitLast? (before ++ '.' :: after) = some (before, after) := by
  have reversed : (before ++ '.' :: after).reverse = after.reverse ++ '.' :: before.reverse := by
    simp
  have clearReversed : '.' ∉ after.reverse := by
    rwa [List.mem_reverse]
  rw [splitLast?, reversed, splitFirst?_of_notMem clearReversed]
  simp

/-- A token comes apart into the parts that it was joined from. -/
theorem split?_join {header payload signature : List Char} (headerClear : '.' ∉ header)
    (signatureClear : '.' ∉ signature) :
    split? (String.ofList ((header ++ '.' :: payload) ++ '.' :: signature)) =
      some ⟨header ++ '.' :: payload, header, payload, signature⟩ := by
  unfold split?
  rw [Text.ofString_ofList, Text.characters?_ofChars, Option.bind_eq_bind, Option.bind_some,
    splitLast?_of_notMem signatureClear, Option.bind_eq_bind, Option.bind_some]
  simp only [splitFirst?_of_notMem headerClear]
  rfl

/-! ### Headers -/

theorem isReadable_header (algorithm : Algorithm) :
    Json.IsReadable nestingLimit (header algorithm) := by
  unfold header nestingLimit Machine.usual
  simp [Json.IsReadable, Json.AllMembersReadable, Json.MemberReadable, Json.joinedNames]

/-- The members of a header. -/
def headerMembers (algorithm : Algorithm) : List (Text × Json) :=
  [("alg", .text algorithm.name), ("typ", .text "JWT")]

theorem partMembers?_header (algorithm : Algorithm) :
    partMembers? (jsonPart (header algorithm)) = some (headerMembers algorithm) := by
  unfold partMembers? jsonPart readMembers?
  rw [Base64.decode?_encodeUrl, Option.bind_some,
    Json.readOctets_write Json.Layout.separates_compact (isReadable_header algorithm), header]
  simp [headerMembers, Json.members?]

theorem headerFits_header (algorithm : Algorithm) :
    headerFits algorithm (headerMembers algorithm) = true := by
  cases algorithm <;> rfl

/-! ### Signed tokens -/

/-- The text of a token with a given signature. -/
def tokenText (algorithm : Algorithm) (payload : Json) (signature : Octets) : String :=
  String.ofList (signedPart algorithm payload ++ '.' :: Base64.encodeUrl signature)

theorem sign?_eq_some_iff {key : SigningKey} {payload : Json} {token : String} :
    sign? key payload = some token ↔
      ∃ signature, key.sign? (asciiOctets (signedPart key.algorithm payload)) = some signature ∧
        tokenText key.algorithm payload signature = token := by
  unfold sign? tokenText
  rw [Option.map_eq_some_iff]

theorem read?_tokenText (algorithm : Algorithm) (payload : Json) (signature : Octets) :
    read? algorithm (tokenText algorithm payload signature) =
      some ⟨asciiOctets (signedPart algorithm payload),
        asciiOctets (Json.write .compact payload), signature⟩ := by
  have headerClear : '.' ∉ jsonPart (header algorithm) := Base64.point_notMem_encodeUrl _
  unfold read? tokenText signedPart
  rw [split?_join headerClear (Base64.point_notMem_encodeUrl signature)]
  simp only [Option.bind_eq_bind, Option.bind_some, partMembers?_header, headerFits_header,
    Base64.decode?_encodeUrl, if_true]
  unfold jsonPart
  rw [Base64.decode?_encodeUrl]
  rfl

/-- A key for verification that accepts the signature opens the token to what was signed, with its
surrogates joined. -/
theorem open?_of_sign? {key : SigningKey} {check : VerificationKey}
    {members : List (Text × Json)} {token : String}
    (signed : sign? key (.object members) = some token)
    (sameAlgorithm : check.algorithm = key.algorithm)
    (accepts : ∀ message signature, key.sign? message = some signature →
      check.verify message signature = true)
    (readable : Json.IsReadable nestingLimit (.object members)) :
    open? check token = some (Json.joinedMembers members) := by
  obtain ⟨signature, signs, rfl⟩ := sign?_eq_some_iff.mp signed
  unfold open? readMembers?
  rw [sameAlgorithm, read?_tokenText, Option.bind_eq_bind, Option.bind_some,
    if_pos (accepts _ _ signs), Json.readOctets_write Json.Layout.separates_compact readable,
    Json.joined_object]
  rfl

/-- A token that is opened is one that was read first. -/
theorem exists_message_of_open? {key : VerificationKey} {token : Text}
    {claims : List (Text × Json)} (opened : open? key token = some claims) :
    ∃ message, read? key.algorithm token = some message := by
  unfold open? at opened
  obtain ⟨message, isRead, -⟩ := Option.bind_eq_some_iff.mp opened
  exact ⟨message, isRead⟩

/-- A secret accepts what it signed. -/
theorem verify_secret {secret : Text} {message signature : Octets}
    (signs : (SigningKey.secret secret).sign? message = some signature) :
    (VerificationKey.secret secret).verify message signature = true := by
  unfold SigningKey.sign? at signs
  unfold VerificationKey.verify
  obtain ⟨octets, usable, rfl⟩ := Option.map_eq_some_iff.mp signs
  simp only
  rw [usable, Option.any_some, beq_self_eq_true]

/-- Whether a key signs does not depend on what is signed, but on the length of its modulus. -/
theorem isSome_sign?_rsa (key : Rsa.PrivateKey) (payload : Json) :
    (sign? (.rsa key) payload).isSome =
      decide (Rsa.encodingLength ≤ Rsa.octetLength key.modulus) := by
  unfold sign? SigningKey.sign? Rsa.sign? Rsa.encoding?
  by_cases short : Rsa.octetLength key.modulus < Rsa.encodingLength
  · simp [short]
  · simp [short, Nat.not_lt.mp short]

/-- Nor does it for a secret. -/
theorem isSome_sign?_secret (secret : Text) (payload : Json) :
    (sign? (.secret secret) payload).isSome = (Secret.octets? secret).isSome := by
  unfold sign? SigningKey.sign?
  rw [Option.isSome_map, Option.isSome_map]

/-! ### Algorithms -/

/-- A header that fits an algorithm names it. -/
theorem lookup?_of_headerFits {algorithm : Algorithm} {header : List (Text × Json)}
    (fits : headerFits algorithm header = true) :
    Json.lookup? "alg" header = some (.text algorithm.name) := by
  unfold headerFits at fits
  have named := (Bool.and_eq_true_iff.mp fits).2
  split at named
  · next name found =>
      rw [found, eq_of_beq named]
  · cases named

theorem Algorithm.name_injective {first second : Algorithm} (same : first.name = second.name) :
    first = second := by
  cases first <;> cases second
  · rfl
  · exact absurd same (by decide)
  · exact absurd same (by decide)
  · rfl

theorem exists_header_of_read? {algorithm : Algorithm} {token : Text} {message : Message}
    (isRead : read? algorithm token = some message) :
    ∃ parts header, split? token = some parts ∧ partMembers? parts.header = some header ∧
      headerFits algorithm header = true := by
  unfold read? at isRead
  obtain ⟨parts, isSplit, isRead⟩ := Option.bind_eq_some_iff.mp isRead
  obtain ⟨header, isHeader, isRead⟩ := Option.bind_eq_some_iff.mp isRead
  obtain ⟨payload, -, isRead⟩ := Option.bind_eq_some_iff.mp isRead
  obtain ⟨signature, -, isRead⟩ := Option.bind_eq_some_iff.mp isRead
  split at isRead
  · next fits => exact ⟨parts, header, isSplit, isHeader, fits⟩
  · cases isRead

/-- A text is read with one algorithm only. -/
theorem algorithm_unique {first second : Algorithm} {token : Text} {one other : Message}
    (isRead : read? first token = some one) (isAlsoRead : read? second token = some other) :
    first = second := by
  obtain ⟨parts, header, isSplit, isHeader, fits⟩ := exists_header_of_read? isRead
  obtain ⟨sameParts, sameHeader, isAlsoSplit, isAlsoHeader, alsoFits⟩ :=
    exists_header_of_read? isAlsoRead
  obtain rfl := Option.some.inj (isSplit.symm.trans isAlsoSplit)
  obtain rfl := Option.some.inj (isHeader.symm.trans isAlsoHeader)
  have named := (lookup?_of_headerFits fits).symm.trans (lookup?_of_headerFits alsoFits)
  exact Algorithm.name_injective (Text.ofString_injective (Json.text.inj (Option.some.inj named)))

end TokenAuthority.Compact
