import TokenAuthority.Proofs.Service.Session
import TokenAuthority.Proofs.Token.Refresh

/-!
What is made of a presented token.

Either a token is trusted, and then it tells what it was issued for, or it is refused as
unauthorized, in words that tell nothing but its kind.  A refresh token is trusted from the second
of its issue on until the second of its expiry, unless its user cannot key the store.  Such a user
is noticed by the verification only; the token is issued all the same, and never trusted.
-/

namespace TokenAuthority

open TokenService

/-- Whether a result is a refusal for want of authorization, in certain words. -/
def IsUnauthorized {α : Type} (result : Except Failure α) (message : String) : Prop :=
  ∃ error : ServiceError, result = .error (.service error) ∧ error.category = .authorization ∧
    error.message = message

/-- What is made of a presented identity token. -/
def IdentityToken.judgement (token : Text) (key : Rsa.PublicKey) (now : Int) :
    Except Failure UserSnapshot :=
  judged .identity (.ofVerified .identity (verify token key now))

/-- What is made of a presented refresh token. -/
def RefreshToken.judgement (token secret : Text) (now : Int) : Except Failure RefreshClaims :=
  judged .refresh (.ofVerified .refresh (verify token secret now))

section Judged

variable {α : Type} {kind : TokenKind} {result : Except VerificationFault α}

/-- A verification that fails as expected only is judged by whether it fails. -/
theorem judged_ofVerified (expected : FailsAsExpected kind result) :
    judged kind (.ofVerified kind result) =
      result.mapError fun _ => .service (.invalidToken kind) := by
  rw [Verdict.ofVerified_eq expected]
  cases result <;> rfl

theorem judged_ofVerified_eq_ok_iff (expected : FailsAsExpected kind result) {value : α} :
    judged kind (.ofVerified kind result) = .ok value ↔ result = .ok value := by
  rw [judged_ofVerified expected]
  cases result <;> simp [Except.mapError]

theorem isUnauthorized_of_error {fault : VerificationFault} (expected : FailsAsExpected kind result)
    (failed : result = .error fault) :
    IsUnauthorized (judged kind (.ofVerified kind result))
      ("invalid " ++ kind.word ++ " token") := by
  rw [judged_ofVerified expected, failed]
  refine ⟨.invalidToken kind, rfl, rfl, ?_⟩
  cases kind <;> rfl

/-- There is nothing besides trust and refusal. -/
theorem eq_ok_or_isUnauthorized (expected : FailsAsExpected kind result) :
    (∃ value, judged kind (.ofVerified kind result) = .ok value) ∨
      IsUnauthorized (judged kind (.ofVerified kind result))
        ("invalid " ++ kind.word ++ " token") := by
  cases verified : result with
  | ok value => exact .inl ⟨value, rfl⟩
  | error fault =>
      rw [← verified]
      exact .inr (isUnauthorized_of_error expected verified)

end Judged

/-- Whatever text is presented, and whatever it holds, verification hands back what the token says
or refuses it as unauthorized, in the same words each time. -/
theorem trusted_or_unauthorized (token : Text) (now : Int) :
    (∀ key, (∃ user, IdentityToken.judgement token key now = .ok user) ∨
      IsUnauthorized (IdentityToken.judgement token key now) "invalid identity token") ∧
    (∀ secret, (∃ claims, RefreshToken.judgement token secret now = .ok claims) ∨
      IsUnauthorized (RefreshToken.judgement token secret now) "invalid refresh token") := by
  constructor
  · intro key
    exact eq_ok_or_isUnauthorized (IdentityToken.failsAsExpected_verify token key now)
  · intro secret
    exact eq_ok_or_isUnauthorized (RefreshToken.failsAsExpected_verify token secret now)

namespace RefreshToken

open Claims

section Signed

variable {user secret : Text} {signed : String} {id : TokenId} {lifespan : Lifespan}
  (isSigned : Compact.sign? (.secret secret) (payload user id lifespan) = some signed)
  (dated : lifespan.IsDated)

include isSigned dated

/-- The user of a token is looked at even though the token was signed here. -/
theorem verify_of_not_isPart (noPart : StoreKey.isPart user = false) (now : Int) :
    ∃ fault, verify signed secret now = .error fault := by
  unfold verify
  rw [trusted_of_sign? isSigned dated now]
  cases lifespan.isCurrent now with
  | false => exact ⟨_, rfl⟩
  | true =>
      refine ⟨.badValue, ?_⟩
      simp [spelledClaims, demand, Json.lookup?, userOf, noPart]
      rfl

theorem judgement_of_not_isPart (noPart : StoreKey.isPart user = false) (now : Int) :
    IsUnauthorized (judgement signed secret now) "invalid refresh token" := by
  obtain ⟨fault, failed⟩ := verify_of_not_isPart isSigned dated noPart now
  exact isUnauthorized_of_error (failsAsExpected_verify signed secret now) failed

theorem judgement_of_current (userPart : StoreKey.isPart user = true) {now : Int}
    (current : lifespan.isCurrent now = true) :
    judgement signed secret now = .ok ⟨user.join, id⟩ := by
  apply (judged_ofVerified_eq_ok_iff (failsAsExpected_verify signed secret now)).mpr
  rw [verify_of_sign? isSigned dated userPart now, if_pos current]

theorem judgement_of_not_current (userPart : StoreKey.isPart user = true) {now : Int}
    (past : ¬lifespan.isCurrent now = true) :
    IsUnauthorized (judgement signed secret now) "invalid refresh token" := by
  have failed : verify signed secret now = .error .refused := by
    rw [verify_of_sign? isSigned dated userPart now, if_neg past]
  exact isUnauthorized_of_error (failsAsExpected_verify signed secret now) failed

end Signed

/-- A token is issued by a secret that signs it, if both dates are near. -/
theorem exists_issue {user secret : Text} {id : TokenId} {lifetime issued : Int}
    (signs : (Compact.sign? (.secret secret)
      (payload user id (.beginning issued lifetime))).isSome = true)
    (near : IsNear issued) (nearEnd : IsNear (Instant.floorToSecond issued + lifetime)) :
    ∃ token, issue user secret id lifetime issued = .ok token := by
  obtain ⟨signed, isSigned⟩ := Option.isSome_iff_exists.mp signs
  exact ⟨_, (issue_eq_ok_iff near.isInRange nearEnd.isInRange).mpr ⟨signed, isSigned, rfl⟩⟩

theorem isPart_eq_false_iff {user : Text} :
    StoreKey.isPart user = false ↔ user = [] ∨ StoreKey.separator ∈ user := by
  rw [← Bool.not_eq_true, StoreKey.isPart_iff, not_and_or, not_not, not_not]

/-- A token whose user can key the store is trusted with what it was issued for, from the second of
the issue on until the second of the expiry, and refused at every other near instant.  The user is
the one that it was issued for exactly if no high surrogate stands right before a low one there;
such surrogates are joined.  A token of any other user is issued as well, and refused at every
instant. -/
theorem judgement_of_issue {user secret : Text} {id : TokenId} {lifetime issued : Int}
    (signs : (Compact.sign? (.secret secret)
      (payload user id (.beginning issued lifetime))).isSome = true)
    (near : IsNear issued) (nearEnd : IsNear (Instant.floorToSecond issued + lifetime)) :
    let expiry := (Instant.floorToSecond issued + lifetime).tdiv microsecondsPerSecond *
      microsecondsPerSecond
    ∃ token, issue user secret id lifetime issued = .ok token ∧
      (StoreKey.isPart user = true → ∀ now, IsNear now →
        if Instant.floorToSecond issued ≤ now ∧ now < expiry then
          judgement token.signed secret now = .ok ⟨user.join, token.id⟩ ∧
            (judgement token.signed secret now = .ok ⟨user, token.id⟩ ↔ user.IsUnpaired)
        else IsUnauthorized (judgement token.signed secret now) "invalid refresh token") ∧
      (user = [] ∨ StoreKey.separator ∈ user → ∀ now,
        IsUnauthorized (judgement token.signed secret now) "invalid refresh token") := by
  intro expiry
  obtain ⟨token, isIssued⟩ := exists_issue signs near nearEnd
  obtain ⟨rfl, -, begins, dated, isSigned⟩ := of_issue isIssued
  refine ⟨token, isIssued, ?_, ?_⟩
  · intro userPart now nearNow
    have current := Lifespan.isCurrent_beginning_iff near nearEnd nearNow
    rw [← begins] at current
    split
    · next within =>
        have trusted := judgement_of_current isSigned dated userPart (current.mpr within)
        refine ⟨trusted, ?_⟩
        rw [trusted, Except.ok.injEq, RefreshClaims.mk.injEq, and_iff_left rfl,
          Text.join_eq_self_iff]
    · next outside =>
        exact judgement_of_not_current isSigned dated userPart (mt current.mp outside)
  · intro noPart now
    exact judgement_of_not_isPart isSigned dated (isPart_eq_false_iff.mpr noPart) now

/-- The dates lie before 1970, and the expiry is told a second early.  Of two users, the second one
cannot key the store. -/
theorem judgement_before_epoch :
    ((Compact.sign? (.secret "a secret of the service")
        (payload "ü𝒳" (.numbered 7) (.beginning (-2500000) 1500000))).isSome = true ∧
      (Compact.sign? (.secret "a secret of the service")
        (payload "a:b" (.numbered 7) (.beginning (-2500000) 1500000))).isSome = true ∧
      IsNear (-2500000) ∧ IsNear (Instant.floorToSecond (-2500000) + 1500000)) ∧
    (∃ token, issue "ü𝒳" "a secret of the service" (.numbered 7) 1500000 (-2500000) = .ok token ∧
      judgement token.signed "a secret of the service" (-1000001) = .ok ⟨"ü𝒳", token.id⟩) ∧
    ∃ token, issue "a:b" "a secret of the service" (.numbered 7) 1500000 (-2500000) = .ok token ∧
      IsUnauthorized (judgement token.signed "a secret of the service" (-1000001))
        "invalid refresh token" := by
  have usable : (Secret.octets? "a secret of the service").isSome = true := by decide +kernel
  have signs : ∀ user : Text, (Compact.sign? (.secret "a secret of the service")
      (payload user (.numbered 7) (.beginning (-2500000) 1500000))).isSome = true := by
    intro user
    rw [tokenLibrary.signs_secret, usable]
  have near : IsNear (-2500000) := by decide
  have nearEnd : IsNear (Instant.floorToSecond (-2500000) + 1500000) := by decide
  obtain ⟨token, isIssued, trusted, -⟩ := judgement_of_issue (signs "ü𝒳") near nearEnd
  obtain ⟨other, isAlsoIssued, -, refused⟩ := judgement_of_issue (signs "a:b") near nearEnd
  refine ⟨⟨signs "ü𝒳", signs "a:b", near, nearEnd⟩, ⟨token, isIssued, ?_⟩, other, isAlsoIssued, ?_⟩
  · have within := trusted (by decide) (-1000001) (by decide)
    rw [if_pos (by decide)] at within
    exact within.2.mpr (Text.isUnpaired_ofString _)
  · exact refused (.inr (by decide)) (-1000001)

/-- The two surrogates of a character come back as that character. -/
theorem judgement_of_issue_paired :
    let user : Text := [.high 0x3d, .low 0x200]
    StoreKey.isPart user = true ∧
    ∃ token, issue user "a secret of the service" (.numbered 7) 1500000 0 = .ok token ∧
      (Instant.floorToSecond 0 ≤ 0 ∧ (0 : Int) < 1000000) ∧
      judgement token.signed "a secret of the service" 0 = .ok ⟨"😀", token.id⟩ ∧
      judgement token.signed "a secret of the service" 0 ≠ .ok ⟨user, token.id⟩ := by
  intro user
  have userPart : StoreKey.isPart user = true := by decide
  have signs : (Compact.sign? (.secret "a secret of the service")
      (payload user (.numbered 7) (.beginning 0 1500000))).isSome = true := by
    rw [tokenLibrary.signs_secret]
    decide +kernel
  have near : IsNear 0 := by decide
  obtain ⟨token, isIssued⟩ := exists_issue signs near (by decide)
  obtain ⟨sameId, -⟩ := of_issue isIssued
  have verified := eq_ok_of_toOption
    (verify?_at_issue userPart isIssued near.isInRange (by decide))
  have trusted := (judged_ofVerified_eq_ok_iff
    (failsAsExpected_verify token.signed "a secret of the service" 0)).mpr verified
  have joined : user.join = "😀" := by decide +kernel
  rw [joined, ← sameId] at trusted
  refine ⟨userPart, token, isIssued, by decide, trusted, ?_⟩
  intro same
  cases congrArg RefreshClaims.user (Except.ok.inj (trusted.symm.trans same))

end RefreshToken

end TokenAuthority
