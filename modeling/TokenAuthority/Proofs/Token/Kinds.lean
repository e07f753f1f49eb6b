import TokenAuthority.Proofs.Token.Identity
import TokenAuthority.Proofs.Token.Judgement

/-!
Tokens of different kinds.

What a token's header names as its algorithm is read before anything else, and it fits the keys of
one kind only.  So no text is trusted as both kinds of token, whatever the keys are, and whoever has
written it.
-/

namespace TokenAuthority

/-- Keys with which one text is trusted are of one kind, whatever claims are required and when. -/
theorem Claims.algorithm_eq_of_trusted {first second : Compact.VerificationKey} {token : Text}
    {required alsoRequired : List String} {now later : Int}
    {claims others : List (Text × Json)}
    (areTrusted : trusted first required now token = .ok claims)
    (areAlsoTrusted : trusted second alsoRequired later token = .ok others) :
    first.algorithm = second.algorithm := by
  obtain ⟨opened, -⟩ := trusted_eq_ok_iff.mp areTrusted
  obtain ⟨alsoOpened, -⟩ := trusted_eq_ok_iff.mp areAlsoTrusted
  exact tokenLibrary.oneAlgorithm opened alsoOpened

/-- A text cannot be verified as both kinds of token. -/
theorem not_verify_both {token secret : Text} {key : Rsa.PublicKey} {now later : Int}
    {user : UserSnapshot} {claims : RefreshClaims}
    (isIdentity : IdentityToken.verify token key now = .ok user) :
    RefreshToken.verify token secret later ≠ .ok claims := by
  intro isRefresh
  obtain ⟨members, areTrusted⟩ := IdentityToken.exists_trusted_of_verify isIdentity
  obtain ⟨others, -, areAlsoTrusted, -⟩ := RefreshToken.exists_claims_of_verify isRefresh
  cases Claims.algorithm_eq_of_trusted areTrusted areAlsoTrusted

/-- A text that is trusted as one kind of token is refused as the other kind, at every instant and
with every key. -/
theorem kinds_never_cross (token secret : Text) (key : Rsa.PublicKey) (now later : Int) :
    (∀ user, IdentityToken.judgement token key now = .ok user →
      IsUnauthorized (RefreshToken.judgement token secret later) "invalid refresh token") ∧
    (∀ claims, RefreshToken.judgement token secret now = .ok claims →
      IsUnauthorized (IdentityToken.judgement token key later) "invalid identity token") := by
  have identityExpected := IdentityToken.failsAsExpected_verify token key
  have refreshExpected := RefreshToken.failsAsExpected_verify token secret
  constructor
  · intro user trusted
    have isIdentity := (judged_ofVerified_eq_ok_iff (identityExpected now)).mp trusted
    cases verified : RefreshToken.verify token secret later with
    | ok claims => exact absurd verified (not_verify_both isIdentity)
    | error fault => exact isUnauthorized_of_error (refreshExpected later) verified
  · intro claims trusted
    have isRefresh := (judged_ofVerified_eq_ok_iff (refreshExpected now)).mp trusted
    cases verified : IdentityToken.verify token key later with
    | ok user => exact absurd isRefresh (not_verify_both verified)
    | error fault => exact isUnauthorized_of_error (identityExpected later) verified

/-- Both kinds are trusted at the instant of their issue, and refused as the other kind half a
second later. -/
theorem sample_kinds_never_cross :
    let key := Rsa.mersenneKey.publicKey
    let secret := "a secret of the service"
    (∃ token, IdentityToken.judgement token key 0 = .ok { id := "u" } ∧
      IsUnauthorized (RefreshToken.judgement token secret 500000) "invalid refresh token") ∧
    ∃ token, RefreshToken.judgement token secret 0 = .ok ⟨"u", .numbered 7⟩ ∧
      IsUnauthorized (IdentityToken.judgement token key 500000) "invalid identity token" := by
  intro key secret
  have near : IsNear 0 := by decide
  have nearEnd : IsNear (Instant.floorToSecond 0 + 900000000) := by decide
  have outlasts : Claims.Lifespan.Outlasts 0 900000000 := by decide
  constructor
  · have signs : (Compact.sign? (.rsa Rsa.mersenneKey)
        (IdentityToken.payload { id := "u" } (.beginning 0 900000000))).isSome = true := by
      rw [tokenLibrary.signs_rsa]
      decide +kernel
    obtain ⟨token, isIssued⟩ := IdentityToken.exists_issue signs near nearEnd
    have verified := eq_ok_of_toOption
      (IdentityToken.verify?_at_issue (by decide) Rsa.matches_mersenneKey isIssued near.isInRange
        outlasts)
    have trusted := (judged_ofVerified_eq_ok_iff
      (IdentityToken.failsAsExpected_verify token.signed key 0)).mpr verified
    exact ⟨token.signed, trusted,
      (kinds_never_cross token.signed secret key 0 500000).1 _ trusted⟩
  · have signs : (Compact.sign? (.secret secret)
        (RefreshToken.payload "u" (.numbered 7) (.beginning 0 900000000))).isSome = true := by
      rw [tokenLibrary.signs_secret]
      decide +kernel
    obtain ⟨token, isIssued⟩ := RefreshToken.exists_issue signs near nearEnd
    have verified := eq_ok_of_toOption
      (RefreshToken.verify?_at_issue (by decide) isIssued near.isInRange outlasts)
    have trusted := (judged_ofVerified_eq_ok_iff
      (RefreshToken.failsAsExpected_verify token.signed secret 0)).mpr verified
    exact ⟨token.signed, trusted,
      (kinds_never_cross token.signed secret key 0 500000).2 _ trusted⟩

end TokenAuthority
