import TokenAuthority.Proofs.Service.Rotation
import TokenAuthority.Proofs.Store.Selection
import TokenAuthority.Proofs.Token.Judgement

/-!
Refresh tokens that are accepted can be rotated.

Verification puts the identifier of a token into its canonical text, and rotation accepts canonical
texts only.  So what verification hands back passes both checks of a rotation, however the token
spells its identifier, and its parts make a key of the store.  Spellings of one number are one
identifier, and so they lead to one key.
-/

namespace TokenAuthority

namespace RefreshToken

/-- How a signed token spells its identifier, if it is signed with a secret. -/
def spelledId? (token secret : Text) : Option Text :=
  (Compact.open? (.secret secret) token).bind fun members =>
    (Json.lookup? "jti" members).map Json.plainText

theorem idOf_eq_ok_iff {value : Json} {id : TokenId} :
    idOf value = .ok id ↔ TokenId.Denotes value.plainText id.value := by
  rw [← TokenId.ofText?_eq_some_iff]
  unfold idOf
  cases TokenId.ofText? value.plainText <;> simp

theorem demand_eq_ok_iff {members : List (Text × Json)} {name : String} {value : Json} :
    Claims.demand members name = .ok value ↔ Json.lookup? name members = some value := by
  unfold Claims.demand
  cases Json.lookup? name members <;> simp

/-- A verified token spells the identifier that is handed back. -/
theorem exists_spelledId_of_verify {token secret : Text} {now : Int} {claims : RefreshClaims}
    (verified : verify token secret now = .ok claims) :
    ∃ spelling, spelledId? token secret = some spelling ∧
      TokenId.Denotes spelling claims.token.value := by
  obtain ⟨members, identifier, areTrusted, -, -, isMade, isSpelled⟩ :=
    exists_claims_of_verify verified
  refine ⟨identifier.plainText, ?_, idOf_eq_ok_iff.mp isSpelled⟩
  unfold spelledId?
  rw [(Claims.trusted_eq_ok_iff.mp areTrusted).1, Option.bind_some, demand_eq_ok_iff.mp isMade,
    Option.map_some]

theorem spelledId?_of_sign? {user secret spelling : Text} {signed : String}
    {lifespan : Claims.Lifespan}
    (isSigned : Compact.sign? (.secret secret) (spelledPayload user spelling lifespan) =
      some signed)
    (dated : lifespan.IsDated) : spelledId? signed secret = some spelling.join := by
  unfold spelledId?
  rw [open?_of_sign? isSigned dated]
  rfl

end RefreshToken

/-- Whether a failure is put down to a text that should be a part of a key. -/
inductive Failure.BlamesPart : Failure → Prop where
  | user : BlamesPart (.service .invalidUserId)
  | key (error : StoreKey.PartError) : BlamesPart (.keyPart error)

theorem IdentityToken.not_blamesPart_of_issue {user : UserSnapshot} {key : Option Rsa.PrivateKey}
    {lifetime now : Int} {failure : Failure}
    (failed : issue user key lifetime now = .error failure) : ¬failure.BlamesPart := by
  rintro (_ | _)
  all_goals
    unfold issue at failed
    split at failed
    · cases failed
    · split at failed <;> cases failed

theorem RefreshToken.not_blamesPart_of_issue {user secret : Text} {id : TokenId}
    {lifetime now : Int} {failure : Failure}
    (failed : issue user secret id lifetime now = .error failure) : ¬failure.BlamesPart := by
  rintro (_ | _)
  all_goals
    unfold issue at failed
    split at failed
    · cases failed
    · split at failed <;> cases failed

namespace TokenService

open Call

theorem Settles.not_blamesPart {context : Context} {user previous : Text} {issued : RefreshToken}
    {world after : World} {failure : Failure}
    (settles : Settles context user previous issued world (.error failure) after) :
    ¬failure.BlamesPart := by
  intro blames
  cases settles with
  | unregistered _ fails =>
      rcases World.eq_of_registeringFailure? fails with rfl | rfl <;> cases blames
  | _ => cases blames

/-- A call whose arguments pass its checks fails for other reasons only. -/
theorem Ends.not_blamesPart {service : TokenService} {context : Option Context}
    {user : UserSnapshot} {previous : Text} {world after : World}
    {outcome : Except Failure TokenPair} (userPart : StoreKey.isPart user.id = true)
    (canonical : TokenId.isCanonical previous = true)
    (ends : Ends service context user previous world outcome after) :
    ∀ failure, outcome = .error failure → ¬failure.BlamesPart := by
  have admission : service.admission user previous world.clock.wall =
      IdentityToken.issue user (some service.policy.privateKey) service.policy.identityLifetime
        world.clock.wall := by
    unfold TokenService.admission
    rw [if_neg (by simp [userPart]), if_neg (by simp [canonical])]
  rintro failure isOutcome
  cases ends with
  | refused refusal =>
      obtain rfl := Except.error.inj isOutcome
      exact IdentityToken.not_blamesPart_of_issue (admission ▸ refusal)
  | unminted _ failed =>
      obtain rfl := Except.error.inj isOutcome
      exact RefreshToken.not_blamesPart_of_issue failed
  | @settled identity refresh settling _ _ _ settles =>
      cases settling with
      | ok => cases isOutcome
      | error other =>
          obtain rfl := Except.error.inj isOutcome
          exact settles.not_blamesPart

/-- Issue a pair of tokens without a look at the arguments. -/
def issuePair (service : TokenService) (context : Option Context) (user : UserSnapshot)
    (previous : Text) : Call TokenPair := do
  let identity ← service.issueIdentity user
  let refresh ← service.issueRefresh user.id
  settle (service.resolve context) user.id previous refresh
  note .debug "Issued token pair" user.id (some refresh.id.text)
  return ⟨identity, refresh⟩

theorem newPair_eq_checked (service : TokenService) (context : Option Context) (user : UserSnapshot)
    (previous : Text) :
    service.newPair context user previous = (do
      checkUser user.id
      checkPrevious user.id previous
      service.issuePair context user previous) := by
  rw [newPair_eq]
  unfold prepare issuePair
  simp only [bind_assoc, pure_bind]

end TokenService

/-- Whether a rotation can use what a token names. -/
structure RefreshClaims.AreUsable (claims : RefreshClaims) : Prop where
  userPart : StoreKey.isPart claims.user = true
  tokenPart : StoreKey.isPart claims.token.text = true
  canonical : TokenId.isCanonicalValue (.text claims.token.text) = true
  key : StoreKey.make claims.user claims.token.text =
    .ok (StoreKey.join claims.user claims.token.text)
  /-- The checks of a rotation refuse neither the user nor the token. -/
  admitted : ∀ (service : TokenService) (context : Option Context) (user : UserSnapshot)
    (world : World), user.id = claims.user →
      Call.runIn (service.newPair context user claims.token.text) world =
        Call.runIn (service.issuePair context user claims.token.text) world
  /-- Nor does anything else in it that makes a key of them. -/
  blameless : ∀ (service : TokenService) (context : Option Context) (user : UserSnapshot)
    (world : World), user.id = claims.user → ∀ failure,
      (Call.runIn (service.newPair context user claims.token.text) world).1 = .error failure →
        ¬failure.BlamesPart

namespace RefreshClaims

open Call TokenService

theorem areUsable_of_isPart {claims : RefreshClaims}
    (userPart : StoreKey.isPart claims.user = true) : claims.AreUsable := by
  have tokenPart := TokenId.isPart_text claims.token
  have canonical := TokenId.isCanonical_text claims.token
  refine ⟨userPart, tokenPart, canonical, StoreKey.make_of_isPart userPart tokenPart, ?_, ?_⟩
  · intro service context user world sameUser
    rw [newPair_eq_checked, runIn_bind_of_ok (runIn_checkUser (sameUser ▸ userPart) world),
      runIn_bind_of_ok (runIn_checkPrevious (by simp [canonical]) user.id world)]
  · intro service context user world sameUser failure failed
    obtain ⟨outcome, after, reports, ends, ran⟩ :=
      runIn_newPair service context user claims.token.text world
    rw [ran] at failed
    exact ends.not_blamesPart (sameUser ▸ userPart) canonical failure failed

end RefreshClaims

namespace RefreshToken

/-- What a verified token names can be used by a rotation, however the token spells it.  Verified
tokens that spell the same number name the same identifier, and so they have the same key. -/
theorem verified_usable {token secret : Text} {now : Int} {claims : RefreshClaims}
    (verified : verify token secret now = .ok claims) :
    claims.AreUsable ∧
      ∃ spelling, spelledId? token secret = some spelling ∧
        TokenId.Denotes spelling claims.token.value ∧
        ∀ (other otherSecret : Text) (later : Int) (others : RefreshClaims)
          (otherSpelling : Text) (value : Int),
          verify other otherSecret later = .ok others →
            spelledId? other otherSecret = some otherSpelling →
            TokenId.Denotes spelling value → TokenId.Denotes otherSpelling value →
            others.token.text = claims.token.text ∧
              ∀ user, StoreKey.make user others.token.text =
                StoreKey.make user claims.token.text := by
  obtain ⟨-, -, -, -, userPart, -⟩ := exists_claims_of_verify verified
  obtain ⟨spelling, isSpelled, spells⟩ := exists_spelledId_of_verify verified
  refine ⟨RefreshClaims.areUsable_of_isPart userPart, spelling, isSpelled, spells, ?_⟩
  intro other otherSecret later others otherSpelling value alsoVerified isAlsoSpelled same alsoSame
  obtain ⟨found, isFound, alsoSpells⟩ := exists_spelledId_of_verify alsoVerified
  obtain rfl := Option.some.inj (isFound.symm.trans isAlsoSpelled)
  obtain rfl := same.unique spells
  rw [alsoSpells.eq alsoSame]
  exact ⟨rfl, fun _ => rfl⟩

/-- One token spells its identifier as a hexadecimal numeral with all that may stand around it and
in it, the other one in braces. -/
theorem sample_verified_usable :
    let secret := "a secret of the service"
    let numeral := " +0x_0000004000800000000000000٧ "
    let braced := "\x7b00000000-0000-4000-8000-000000000007\x7d"
    ∃ (token other : String) (claims others : RefreshClaims),
      (verify token secret 0 = .ok claims ∧ verify other secret 500000 = .ok others ∧
        spelledId? token secret = some numeral ∧ spelledId? other secret = some braced ∧
        TokenId.Denotes numeral (TokenId.numbered 7).value ∧
        TokenId.Denotes braced (TokenId.numbered 7).value) ∧
      claims.AreUsable ∧
      StoreKey.make "u" others.token.text = StoreKey.make "u" claims.token.text := by
  intro secret numeral braced
  have dated : (Claims.Lifespan.beginning 0 900000000).IsDated :=
    Claims.Lifespan.isDated_beginning (by decide) (by decide)
  have signs : ∀ spelling : Text, ∃ token, Compact.sign? (.secret secret)
      (spelledPayload "u" spelling (.beginning 0 900000000)) = some token := by
    intro spelling
    apply Option.isSome_iff_exists.mp
    rw [tokenLibrary.signs_secret]
    decide +kernel
  obtain ⟨token, isSigned⟩ := signs numeral
  obtain ⟨other, isAlsoSigned⟩ := signs braced
  have spelled : TokenId.ofText? numeral = some (TokenId.numbered 7) := by decide +kernel
  have alsoSpelled : TokenId.ofText? braced = some (TokenId.numbered 7) := by decide +kernel
  have verified := verify_of_spelled isSigned dated spelled (by decide) 0
  have alsoVerified := verify_of_spelled isAlsoSigned dated alsoSpelled (by decide) 500000
  rw [if_pos (by decide +kernel)] at verified alsoVerified
  have named := spelledId?_of_sign? isSigned dated
  have alsoNamed := spelledId?_of_sign? isAlsoSigned dated
  rw [Text.join_ofString] at named alsoNamed
  have spells := TokenId.ofText?_eq_some_iff.mp spelled
  have alsoSpells := TokenId.ofText?_eq_some_iff.mp alsoSpelled
  obtain ⟨usable, spelling, isSpelled, -, agree⟩ := verified_usable verified
  obtain rfl := Option.some.inj (isSpelled.symm.trans named)
  obtain ⟨-, sameKey⟩ := agree other secret 500000 _ braced _ alsoVerified alsoNamed
    spells alsoSpells
  exact ⟨token, other, _, _, ⟨verified, alsoVerified, named, alsoNamed, spells, alsoSpells⟩, usable,
    sameKey "u"⟩

end RefreshToken

end TokenAuthority
