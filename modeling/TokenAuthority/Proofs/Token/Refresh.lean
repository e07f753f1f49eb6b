import TokenAuthority.Proofs.Libraries
import TokenAuthority.Proofs.Token.Spelling
import TokenAuthority.Token.Refresh

/-!
A refresh token names what it was issued for.

The payload of a token is read back as it was signed, with the surrogates of its texts joined.  So
verification hands back the user and the identifier that the token was issued for whenever its
lifespan is current, and refuses it at all other instants.
-/

namespace TokenAuthority.RefreshToken

open Claims

/-- The claims of a token that spells its identifier in some way. -/
def spelledClaims (user spelling : Text) (lifespan : Lifespan) : List (Text × Json) :=
  ("uid", .text user) :: ("jti", .text spelling) :: lifespan.claims

def spelledPayload (user spelling : Text) (lifespan : Lifespan) : Json :=
  .object (spelledClaims user spelling lifespan)

theorem isReadable_spelledPayload (user spelling : Text) {lifespan : Lifespan}
    (dated : lifespan.IsDated) :
    Json.IsReadable Compact.nestingLimit (spelledPayload user spelling lifespan) := by
  unfold spelledPayload spelledClaims Compact.nestingLimit Machine.usual
  simp [Lifespan.claims, Json.IsReadable, Json.AllMembersReadable, Json.MemberReadable,
    Json.joinedNames,
    Lifespan.isShort_wholeSecondsOf dated.issued, Lifespan.isShort_wholeSecondsOf dated.expires]

/-- The claims of a token hold as long as its lifespan is current. -/
theorem check_members (user spelling : Text) (lifespan : Lifespan) (now : Int) :
    check requiredClaims now (spelledClaims user spelling lifespan) =
      refuseUnless (lifespan.isCurrent now) :=
  tokenLibrary.lasts ⟨rfl, rfl, rfl, rfl, rfl, rfl, rfl⟩ now

theorem userOf_eq_ok_iff {value : Json} {user : Text} :
    userOf value = .ok user ↔ value = .text user ∧ StoreKey.isPart user = true := by
  cases value with
  | text text =>
      unfold userOf
      cases part : StoreKey.isPart text with
      | false =>
          simp only [part, Bool.false_eq_true, if_false, reduceCtorEq, Json.text.injEq, false_iff]
          rintro ⟨rfl, isPart⟩
          rw [part] at isPart
          cases isPart
      | true =>
          simp only [part, if_true, Except.ok.injEq, Json.text.injEq]
          constructor
          · rintro rfl
            exact ⟨rfl, part⟩
          · exact And.left
  | _ => simp [userOf]

/-- What a verified token names is what its claims say: a user that can be a part of a key, and an
identifier in some spelling. -/
theorem exists_claims_of_verify {token secret : Text} {now : Int} {claims : RefreshClaims}
    (verified : verify token secret now = .ok claims) :
    ∃ members identifier, trusted (.secret secret) requiredClaims now token = .ok members ∧
      demand members "uid" = .ok (.text claims.user) ∧ StoreKey.isPart claims.user = true ∧
      demand members "jti" = .ok identifier ∧ idOf identifier = .ok claims.token := by
  obtain ⟨members, areTrusted, named⟩ := exists_of_bind_eq_ok verified
  obtain ⟨value, isMade, named⟩ := exists_of_bind_eq_ok named
  obtain ⟨user, isUser, named⟩ := exists_of_bind_eq_ok named
  obtain ⟨identifier, isAlsoMade, named⟩ := exists_of_bind_eq_ok named
  obtain ⟨id, isSpelled, isClaims⟩ := exists_of_bind_eq_ok named
  obtain rfl := Except.ok.inj isClaims
  obtain ⟨rfl, userPart⟩ := userOf_eq_ok_iff.mp isUser
  exact ⟨members, identifier, areTrusted, isMade, userPart, isAlsoMade, isSpelled⟩

/-- A verified token names a user that can be a part of a key. -/
theorem isPart_of_verify? {token secret : Text} {now : Int} {claims : RefreshClaims}
    (verified : verify? token secret now = some claims) :
    StoreKey.isPart claims.user = true := by
  obtain ⟨-, -, -, -, userPart, -⟩ := exists_claims_of_verify (eq_ok_of_toOption verified)
  exact userPart

section Spelled

variable {user secret spelling : Text} {signed : String} {lifespan : Lifespan}
  (isSigned : Compact.sign? (.secret secret) (spelledPayload user spelling lifespan) = some signed)
  (dated : lifespan.IsDated)

include isSigned dated

/-- The claims of a signed token are the ones that were signed. -/
theorem open?_of_sign? :
    Compact.open? (.secret secret) signed =
      some (spelledClaims user.join spelling.join lifespan) := by
  rw [tokenLibrary.opens (.secret secret) isSigned (isReadable_spelledPayload user spelling dated)]
  simp [spelledClaims, Lifespan.claims]

theorem trusted_of_sign? (now : Int) :
    trusted (.secret secret) requiredClaims now signed =
      if lifespan.isCurrent now then
        .ok (spelledClaims user.join spelling.join lifespan)
      else .error .refused := by
  unfold trusted
  simp only [open?_of_sign? isSigned dated, check_members]
  cases lifespan.isCurrent now <;> rfl

/-- A signed token is verified while it is current, however it spells its identifier, if its user
can be a part of a key. -/
theorem verify_of_spelled {id : TokenId} (spelled : TokenId.ofText? spelling = some id)
    (userPart : StoreKey.isPart user = true) (now : Int) :
    verify signed secret now =
      if lifespan.isCurrent now then .ok ⟨user.join, id⟩ else .error .refused := by
  unfold verify
  rw [trusted_of_sign? isSigned dated now]
  cases lifespan.isCurrent now with
  | false => rfl
  | true =>
      have isUser : userOf (.text user.join) = .ok user.join :=
        userOf_eq_ok_iff.mpr ⟨rfl, by rwa [StoreKey.isPart_join]⟩
      have isSpelled : idOf (.text spelling) = .ok id := by
        unfold idOf Json.plainText
        rw [spelled]
        rfl
      simp [spelledClaims, demand, Json.lookup?, isUser, isSpelled, TokenId.join_of_ofText? spelled]

end Spelled

section Signed

variable {user secret : Text} {signed : String} {id : TokenId} {lifespan : Lifespan}
  (isSigned : Compact.sign? (.secret secret) (payload user id lifespan) = some signed)
  (dated : lifespan.IsDated)

include isSigned dated

theorem verify_of_sign? (userPart : StoreKey.isPart user = true) (now : Int) :
    verify signed secret now =
      if lifespan.isCurrent now then .ok ⟨user.join, id⟩ else .error .refused :=
  verify_of_spelled isSigned dated (TokenId.ofText?_text id) userPart now

theorem verify?_of_sign? (userPart : StoreKey.isPart user = true) (now : Int) :
    verify? signed secret now = if lifespan.isCurrent now then some ⟨user.join, id⟩ else none := by
  unfold verify?
  rw [verify_of_sign? isSigned dated userPart]
  cases lifespan.isCurrent now <;> rfl

end Signed

/-- How a token is issued in the calendar with a secret that signs. -/
theorem issue_eq_ok_iff {user secret : Text} {id : TokenId} {lifetime now : Int}
    {token : RefreshToken} (inCalendar : Instant.isInRange now = true)
    (endsInCalendar : Instant.isInRange (Instant.floorToSecond now + lifetime) = true) :
    issue user secret id lifetime now = .ok token ↔
      ∃ signed, Compact.sign? (.secret secret) (payload user id (.beginning now lifetime)) =
        some signed ∧ token = ⟨signed, id, user, .beginning now lifetime⟩ := by
  unfold issue
  simp only [Lifespan.starting?_of_isInRange inCalendar endsInCalendar]
  cases Compact.sign? (.secret secret) (payload user id (.beginning now lifetime)) with
  | none => simp
  | some signed => simp [eq_comm]

/-- What is issued begins now and is signed, and its dates lie in the calendar. -/
theorem of_issue {user secret : Text} {id : TokenId} {lifetime now : Int} {token : RefreshToken}
    (isIssued : issue user secret id lifetime now = .ok token) :
    token.id = id ∧ token.user = user ∧ token.lifespan = .beginning now lifetime ∧
      token.lifespan.IsDated ∧
      Compact.sign? (.secret secret) (payload user id token.lifespan) = some token.signed := by
  cases begins : Lifespan.starting? now lifetime with
  | none =>
      unfold issue at isIssued
      rw [begins] at isIssued
      cases isIssued
  | some lifespan =>
      obtain ⟨inCalendar, endsInCalendar, -⟩ := Lifespan.eq_beginning_of_starting? begins
      obtain ⟨signed, isSigned, rfl⟩ := (issue_eq_ok_iff inCalendar endsInCalendar).mp isIssued
      exact ⟨rfl, rfl, rfl, Lifespan.isDated_beginning inCalendar endsInCalendar, isSigned⟩

/-- A token is verified at the instant of its issue, if its lifetime is not lost in rounding. -/
theorem verify?_at_issue {user secret : Text} {id : TokenId} {lifetime now : Int}
    {token : RefreshToken} (userPart : StoreKey.isPart user = true)
    (isIssued : issue user secret id lifetime now = .ok token)
    (inCalendar : Instant.isInRange now = true) (outlasts : Lifespan.Outlasts now lifetime) :
    verify? token.signed secret now = some ⟨user.join, id⟩ := by
  obtain ⟨-, -, begins, dated, isSigned⟩ := of_issue isIssued
  rw [begins] at dated isSigned
  rw [verify?_of_sign? isSigned dated userPart,
    Lifespan.isCurrent_beginning inCalendar dated.expires outlasts, if_pos rfl]

/-- A token that was issued is verified as what it was issued for, until it expires. -/
theorem verify?_of_issue {user secret : Text} {id : TokenId} {lifetime issued now : Int}
    {token : RefreshToken} (userPart : StoreKey.isPart user = true)
    (isIssued : issue user secret id lifetime issued = .ok token) (near : IsNear now)
    (later : issued ≤ now) (lasts : now < token.lifespan.expiry) :
    verify? token.signed secret now = some ⟨user.join, id⟩ := by
  obtain ⟨-, -, begins, dated, isSigned⟩ := of_issue isIssued
  have begun : wholeSecondsOf token.lifespan.issuedAt * microsecondsPerSecond ≤ now := by
    rw [begins] at dated ⊢
    unfold Lifespan.beginning
    rw [Instant.wholeSecondsOf_floorToSecond dated.issued, ← Instant.floorToSecond_eq]
    exact Int.le_trans (Instant.floorToSecond_le issued) later
  rw [verify?_of_sign? isSigned dated userPart, Lifespan.isCurrent_of_near near]
  simp [begun, lasts]

end TokenAuthority.RefreshToken
