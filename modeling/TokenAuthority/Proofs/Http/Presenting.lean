import TokenAuthority.Proofs.Http.View
import TokenAuthority.Proofs.Json.Octets
import TokenAuthority.Proofs.Rsa.Signature
import TokenAuthority.Proofs.Service.Issuing
import TokenAuthority.Proofs.Service.Stillness
import TokenAuthority.Proofs.User.Snapshot

/-!
Presenting a refresh token.

A request presents a token by an object that has the token as a text and no other member.  A request
can be written for every token, and it presents that token.
-/

namespace TokenAuthority

namespace Http

/-- A request that presents a refresh token. -/
def rotationRequest (target token : String) : Request where
  method := "POST"
  target := target
  headers := [("Content-Type", "application/json")]
  body := Compact.asciiOctets (Json.write .compact (.object [(refreshTokenMember, .text token)]))

theorem isJson_rotationRequest (target token : String) :
    (rotationRequest target token).isJson = true := by
  have headersTell : ∀ request : Request,
      request.headers = [("Content-Type", "application/json")] → request.isJson = true := by
    intro request sameHeaders
    unfold Request.isJson Request.mediaType
    rw [sameHeaders]
    decide +kernel
  exact headersTell _ rfl

theorem length?_rotationRequest (target token : String) :
    (rotationRequest target token).length? =
      some (rotationRequest target token).body.length := by
  have notChunked : (rotationRequest target token).headers.find? "Transfer-Encoding" ≠
      some "chunked" := by
    show Headers.find? [("Content-Type", "application/json")] _ ≠ _
    decide +kernel
  have hasBody : (rotationRequest target token).body.isEmpty = false := rfl
  unfold Request.length?
  rw [hasBody, Bool.or_false, if_neg (by simpa using notChunked)]

theorem readOctets_rotationRequest (levels : Nat) (target token : String) :
    Json.readOctets (levels + 1) (rotationRequest target token).body =
      .ok (.object [(refreshTokenMember, .text token)]) := by
  have readable : Json.IsReadable (levels + 1) (.object [(refreshTokenMember, .text token)]) := by
    simp [Json.IsReadable, Json.joinedNames, Json.AllMembersReadable, Json.MemberReadable]
  have same : Json.joined (.object [(refreshTokenMember, .text token)]) =
      .object [(refreshTokenMember, .text token)] := by
    simp [refreshTokenMember]
  rw [rotationRequest, Json.readOctets_write Json.Layout.separates_compact readable, same]

theorem isRotationForm_member {token : Text} (nonempty : token ≠ []) :
    IsRotationForm (.object [(refreshTokenMember, .text token)]) token :=
  ⟨_, rfl, by simp, by simp [Json.lookup?], nonempty⟩

/-- While the length of bodies is not limited, a written request presents its token. -/
theorem presentedBy_rotationRequest {app : App}
    (unlimited : app.settings.find? "MAX_CONTENT_LENGTH" = none) {levels : Nat}
    (reads : app.machine.levels = levels + 1) (target : String) {token : String}
    (nonempty : (token : Text) ≠ []) :
    View.presentedBy app (rotationRequest target token) = .ok token := by
  have octets : View.octetsOf app (rotationRequest target token) =
      .ok (rotationRequest target token).body := by
    unfold View.octetsOf
    simp only [length?_rotationRequest, unlimited, Option.getD_none, View.isBeyond]
  have content : View.contentOf app (rotationRequest target token) =
      .ok (.object [(refreshTokenMember, .text token)]) := by
    unfold View.contentOf
    rw [isJson_rotationRequest, octets]
    show View.valueOf _ _ = _
    unfold View.valueOf
    rw [reads, readOctets_rotationRequest]
    rfl
  unfold View.presentedBy
  rw [content, ok_bind, (formLibrary.presents _ _).mpr (isRotationForm_member nonempty)]
  rfl

/-- A written request that is longer than settings allow is not read. -/
theorem contentOf_rotationRequest_of_limit {app : App} {limit : Int}
    (limited : app.settings.find? "MAX_CONTENT_LENGTH" = some (.value (.int limit)))
    {target token : String} (exceeds : limit < (rotationRequest target token).body.length) :
    View.contentOf app (rotationRequest target token) = .error .bodyTooLong := by
  have octets : View.octetsOf app (rotationRequest target token) = .error .bodyTooLong := by
    unfold View.octetsOf
    simp only [length?_rotationRequest, limited, Option.getD_some, View.isBeyond,
      decide_eq_true exceeds]
  unfold View.contentOf
  rw [isJson_rotationRequest, octets]
  rfl

/-! ### A sample -/

/-- An application whose keys match. -/
def sampleApp : App where
  mount := "/api/v1"
  level := Log.Severity.info.number
  service :=
    { policy := { TokenService.sample.policy with
        privateKey := Rsa.mersenneKey, publicKey := Rsa.mersenneKey.publicKey } }
  directory := none
  hasKeyServer := false
  settings := []
  machine := .usual

theorem signs_sampleApp : sampleApp.service.Signs where
  identity := by
    intro payload
    rw [tokenLibrary.signs_rsa]
    decide +kernel
  refresh := TokenService.signs_sample.refresh

theorem isDatedAt_sampleApp : sampleApp.service.IsDatedAt World.sample.clock.wall := by
  constructor <;> decide

/-- A user holds the only token that was ever registered. -/
structure SignedIn (token : String) (world : World) : Prop where
  still : world.IsStill
  clock : world.clock = World.sample.clock
  raised : world.raised = []
  nextId : world.nextId = .numbered 2
  nonempty : (token : Text) ≠ []
  verified : RefreshToken.verify? token sampleApp.service.policy.secret world.clock.wall =
    some ⟨"u", .numbered 1⟩
  live : world.IsLive "u" (TokenId.numbered 1).text
  alone : ∀ clock user, ¬world.store.IsLive clock (StoreKey.join user (TokenId.numbered 2).text)

theorem exists_signedIn : ∃ token world, SignedIn token world := by
  have userPart : StoreKey.isPart ({ id := "u" } : UserSnapshot).id = true := by decide
  have active : (sampleApp.service.resolve none).hasExpired World.sample.clock
      World.sample.raised = false := rfl
  obtain ⟨pair, reports, minted, -⟩ :=
    TokenService.exists_first_pair signs_sampleApp isDatedAt_sampleApp userPart rfl rfl active
  obtain ⟨isNext, -, begins, dated, isSigned⟩ := RefreshToken.of_issue minted
  have isFirst : pair.refresh.id = .numbered 1 := isNext
  have verified := RefreshToken.verify?_of_sign? isSigned dated userPart
    World.sample.clock.wall
  have current : pair.refresh.lifespan.isCurrent World.sample.clock.wall = true := by
    rw [begins]
    exact Claims.Lifespan.isCurrent_beginning isDatedAt_sampleApp.inCalendar
      isDatedAt_sampleApp.refresh (by decide)
  rw [current, if_pos rfl] at verified
  have nonempty : (pair.refresh.signed : Text) ≠ [] := by
    intro isEmpty
    rw [isEmpty] at verified
    exact absurd verified (by decide +kernel)
  have counts := World.sample.store.isLive_register_self World.sample.clock
    (StoreKey.join "u" pair.refresh.id.text)
    (Duration.one_le_storeSeconds (pair.refresh.timeLeft World.sample.clock.wall))
  refine ⟨pair.refresh.signed, pair.refresh.registeredIn "u" World.sample.drawing,
    ⟨rfl, rfl⟩, rfl, rfl, rfl, nonempty, verified, ?_, ?_⟩
  · rw [← isFirst]
    exact counts
  · intro clock user
    have differs : StoreKey.join user (TokenId.numbered 2).text ≠
        StoreKey.join "u" pair.refresh.id.text := by
      rw [isFirst, ne_eq, StoreKey.join_eq_join_iff userPart (TokenId.isPart_text _),
        TokenId.text_inj]
      exact fun same => absurd same.2 (by decide)
    apply mt (pair.refresh.isLive_addedTo_iff "u" World.sample.drawing clock differs).mp
    exact (Store.not_isLive_iff _ _ _).mpr rfl

namespace SignedIn

variable {token : String} {world : World} (signedIn : SignedIn token world)

include signedIn

/-- What is presented by a request with the token names what the token was issued for. -/
theorem eq_of_presentedBy {app : App}
    (unlimited : app.settings.find? "MAX_CONTENT_LENGTH" = none) {levels : Nat}
    (reads : app.machine.levels = levels + 1) {target : String} {presented : Text}
    (presents : View.presentedBy app (rotationRequest target token) = .ok presented)
    {claims : RefreshClaims}
    (verified : RefreshToken.verify? presented sampleApp.service.policy.secret world.clock.wall =
      some claims) : claims = ⟨"u", .numbered 1⟩ := by
  have isToken : (token : Text) = presented := Except.ok.inj
    ((presentedBy_rotationRequest unlimited reads target signedIn.nonempty).symm.trans presents)
  rw [← isToken] at verified
  exact Option.some.inj (verified.symm.trans signedIn.verified)

theorem fresh (clock : Clock) (user : Text) :
    ¬world.store.IsLive clock (StoreKey.join user world.nextId.text) ∧
      TokenId.numbered 1 ≠ world.nextId := by
  rw [signedIn.nextId]
  exact ⟨signedIn.alone clock user, by decide⟩

end SignedIn

end Http

end TokenAuthority
