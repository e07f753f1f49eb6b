import TokenAuthority.Proofs.Key.Unread
import TokenAuthority.Proofs.Token.Identity
import TokenAuthority.Proofs.Token.Verification
import TokenAuthority.Token.UnreadKey

/-!
Identity tokens with a key in a text.

Issuing with the text of a private key, and verifying with the text of a public key, come to the
same as with the keys themselves.  So a token that is issued with one text is verified with another
while it is current, if the keys in them match.
-/

namespace TokenAuthority.IdentityToken

open Claims

variable {user : UserSnapshot} {text : Octets} {lifetime now : Int}

/-- The dates are looked at before the key is. -/
theorem issueUnread_of_starting?_eq_none (undated : Lifespan.starting? now lifetime = none) :
    issueUnread user text lifetime now = .error (.failure .dateOutOfRange) := by
  have refused : ∀ key, issue user key lifetime now = .error .dateOutOfRange := by
    intro key
    unfold issue
    rw [undated]
  unfold issueUnread
  simp only [undated, Option.isNone_none, if_true, refused]
  split <;> rfl

theorem issue_none_ne_ok {token : IdentityToken} : issue user none lifetime now ≠ .ok token := by
  unfold issue
  cases Lifespan.starting? now lifetime <;> simp

/-- A token is issued exactly if the text holds a private key that issues it. -/
theorem issueUnread_eq_ok_iff {token : IdentityToken} :
    issueUnread user text lifetime now = .ok token ↔
      ∃ key, Key.Reads text (.signing key) ∧ issue user (some key) lifetime now = .ok token := by
  have later : ∀ failure, (if (Lifespan.starting? now lifetime).isNone then
      Except.error (UnreadKeyFailure.failure .dateOutOfRange) else .error failure) ≠ .ok token := by
    intro failure
    split <;> simp
  have mapped : ∀ key, (issue user key lifetime now).mapError UnreadKeyFailure.failure = .ok token ↔
      issue user key lifetime now = .ok token := by
    intro key
    cases issue user key lifetime now <;> simp [Except.mapError]
  unfold issueUnread
  simp only [← Key.half_eq_ok_iff]
  cases found : Key.half text with
  | ok half =>
      cases half with
      | signing key => simp [mapped]
      | verifying key => simpa using later _
  | error error =>
      cases error with
      | unusable => simpa [mapped] using issue_none_ne_ok
      | unsupported => simpa using later _

/-- A token is read before its signature is checked. -/
theorem exists_message_of_verify? {token : Text} {key : Rsa.PublicKey}
    (verified : verify? token (some key) now = some user) :
    ∃ message, Compact.read? .rs256 token = some message := by
  obtain ⟨members, areTrusted⟩ := exists_trusted_of_verify (eq_ok_of_toOption verified)
  have isRead := Compact.exists_message_of_open? (trusted_eq_ok_iff.mp areTrusted).1
  exact isRead

/-- A user is trusted exactly if the text holds a public key by which the token is verified. -/
theorem verifyUnread_eq_ok_some_iff {token : Text} :
    verifyUnread token text now = .ok (some user) ↔
      ∃ key, Key.Reads text (.verifying key) ∧ verify? token (some key) now = some user := by
  unfold verifyUnread
  simp only [← Key.half_eq_ok_iff]
  cases isRead : Compact.read? .rs256 token with
  | none =>
      simp only [Except.ok.injEq, reduceCtorEq, false_iff, not_exists, not_and]
      intro key _ verified
      obtain ⟨message, isMessage⟩ := exists_message_of_verify? verified
      rw [isRead] at isMessage
      cases isMessage
  | some message =>
      cases Key.half text with
      | ok half => cases half <;> simp
      | error error => cases error <;> simp

/-- A token that is issued with the text of a private key is verified with the text of the public
key while it is current, and no user is trusted at any other instant. -/
theorem verifyUnread_of_issueUnread {publicText : Octets} {token : IdentityToken}
    {issued : Int} (named : user.id ≠ [])
    (fits : ∀ key check, Key.Reads text (.signing key) → Key.Reads publicText (.verifying check) →
      Rsa.Matches key check)
    (readable : ∃ check, Key.Reads publicText (.verifying check))
    (isIssued : issueUnread user text lifetime issued = .ok token) :
    verifyUnread token.signed publicText now =
      .ok (if token.lifespan.isCurrent now then some user.joined else none) := by
  obtain ⟨key, holdsKey, isIssued⟩ := issueUnread_eq_ok_iff.mp isIssued
  obtain ⟨check, holdsCheck⟩ := readable
  obtain ⟨-, -, dated, isSigned⟩ := of_issue isIssued
  obtain ⟨signature, -, isText⟩ := Compact.sign?_eq_some_iff.mp isSigned
  have isRead : Compact.read? .rs256 token.signed =
      some ⟨Compact.asciiOctets (Compact.signedPart .rs256 (payload user token.lifespan)),
        Compact.asciiOctets (Json.write .compact (payload user token.lifespan)), signature⟩ := by
    rw [← isText]
    exact Compact.read?_tokenText .rs256 _ _
  have verified := verify?_of_sign? (fits key check holdsKey holdsCheck) isSigned dated named now
  unfold verifyUnread
  simp only [isRead, Key.half_eq_ok_iff.mpr holdsCheck, verified]

end TokenAuthority.IdentityToken
