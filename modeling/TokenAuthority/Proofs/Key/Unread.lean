import TokenAuthority.Key.Unread
import TokenAuthority.Proofs.Key.Unsupported

/-!
Which half of a key a text holds.

A text that begins as a line is read as one, any other text as a private key.  The public key of a
block is looked for only where that finds nothing it could read.  Whichever half is found, it is one
of an RSA key.
-/

namespace TokenAuthority.Key

/-- Which half of a key is found in a text. -/
inductive Reads (octets : Octets) : Half → Prop
  | signing {key : Rsa.PrivateKey} (noLine : Line.isRsaLine octets = false)
      (loaded : loadPrivate octets = .ok key) : Reads octets (.signing key)
  | line {key : Rsa.PublicKey} (isLine : Line.isRsaLine octets = true)
      (loaded : Line.load octets = .ok key) : Reads octets (.verifying key)
  | afterLine {key : Rsa.PublicKey} (isLine : Line.isRsaLine octets = true)
      (unreadable : Line.load octets = .error .unreadable) (loaded : loadPublic octets = .ok key) :
      Reads octets (.verifying key)
  | block {key : Rsa.PublicKey} (noLine : Line.isRsaLine octets = false)
      (noPrivate : loadPrivate octets = .error .unreadable) (loaded : loadPublic octets = .ok key) :
      Reads octets (.verifying key)

variable {octets : Octets}

theorem publicHalf_eq_ok_iff {found : Half} :
    publicHalf octets = .ok found ↔
      ∃ key, loadPublic octets = .ok key ∧ found = .verifying key := by
  unfold publicHalf
  cases loadPublic octets with
  | ok key => simp [eq_comm]
  | error error => simp

theorem orPublicHalf_eq_ok_iff {first : Except LoadError Half} {found : Half} :
    orPublicHalf octets first = .ok found ↔
      first = .ok found ∨ first = .error .unreadable ∧
        ∃ key, loadPublic octets = .ok key ∧ found = .verifying key := by
  cases first with
  | ok half => simp [orPublicHalf]
  | error error => cases error <;> simp [orPublicHalf, publicHalf_eq_ok_iff]

theorem map_eq_ok_iff {α β : Type} {read : Except LoadError α} {wrap : α → β} {found : β} :
    read.map wrap = .ok found ↔ ∃ key, read = .ok key ∧ wrap key = found := by
  cases read <;> simp [Except.map]

theorem map_eq_error_iff {α β : Type} {read : Except LoadError α} {wrap : α → β}
    {error : LoadError} : read.map wrap = .error error ↔ read = .error error := by
  cases read <;> simp [Except.map]

theorem half_eq_ok_iff {found : Half} : half octets = .ok found ↔ Reads octets found := by
  unfold half
  rw [orPublicHalf_eq_ok_iff]
  cases isLine : Line.isRsaLine octets with
  | true =>
      rw [if_pos rfl, map_eq_ok_iff, map_eq_error_iff]
      constructor
      · rintro (⟨key, loaded, rfl⟩ | ⟨unreadable, key, loaded, rfl⟩)
        · exact .line isLine loaded
        · exact .afterLine isLine unreadable loaded
      · rintro (⟨noLine, loaded⟩ | ⟨-, loaded⟩ | ⟨-, unreadable, loaded⟩ | ⟨noLine, -, -⟩)
        · rw [isLine] at noLine
          cases noLine
        · exact .inl ⟨_, loaded, rfl⟩
        · exact .inr ⟨unreadable, _, loaded, rfl⟩
        · rw [isLine] at noLine
          cases noLine
  | false =>
      rw [if_neg Bool.false_ne_true, map_eq_ok_iff, map_eq_error_iff]
      constructor
      · rintro (⟨key, loaded, rfl⟩ | ⟨unreadable, key, loaded, rfl⟩)
        · exact .signing isLine loaded
        · exact .block isLine unreadable loaded
      · rintro (⟨-, loaded⟩ | ⟨isRsaLine, -⟩ | ⟨isRsaLine, -, -⟩ | ⟨-, noPrivate, loaded⟩)
        · exact .inl ⟨_, loaded, rfl⟩
        · rw [isLine] at isRsaLine
          cases isRsaLine
        · rw [isLine] at isRsaLine
          cases isRsaLine
        · exact .inr ⟨noPrivate, _, loaded, rfl⟩

theorem Line.isWellFormed_of_load {key : Rsa.PublicKey} (loaded : Line.load octets = .ok key) :
    key.isWellFormed = true := by
  unfold Line.load at loaded
  obtain ⟨⟨name, body⟩, -, loaded⟩ := exists_of_bind_eq_ok loaded
  simp only at loaded
  split at loaded
  · cases loaded
  · split at loaded
    · cases loaded
    · obtain ⟨content, -, isKey⟩ := Option.bind_eq_some_iff.mp (readable_eq_ok_iff.mp loaded)
      unfold Line.rsaKey? at isKey
      obtain ⟨⟨kind, rest⟩, -, isKey⟩ := Option.bind_eq_some_iff.mp isKey
      obtain ⟨⟨exponent, others⟩, -, isKey⟩ := Option.bind_eq_some_iff.mp isKey
      obtain ⟨⟨modulus, last⟩, -, isKey⟩ := Option.bind_eq_some_iff.mp isKey
      obtain ⟨fits, same⟩ := Option.ite_none_right_eq_some.mp isKey
      obtain rfl := Option.some.inj same
      exact fits.2.2

/-- A private key that is found has numbers that agree. -/
theorem Reads.agrees {key : Rsa.PrivateKey} (reads : Reads octets (.signing key)) :
    Agrees key := by
  cases reads with
  | signing _ loaded => exact agrees_of_loadPrivate loaded

/-- A public key that is found has the form of one. -/
theorem Reads.isWellFormed {key : Rsa.PublicKey} (reads : Reads octets (.verifying key)) :
    key.isWellFormed = true := by
  cases reads with
  | line _ loaded => exact Line.isWellFormed_of_load loaded
  | afterLine _ _ loaded => exact isWellFormed_of_loadPublic loaded
  | block _ _ loaded => exact isWellFormed_of_loadPublic loaded

end TokenAuthority.Key
