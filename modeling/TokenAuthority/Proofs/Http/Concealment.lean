import TokenAuthority.Proofs.Http.RequestId
import TokenAuthority.Proofs.Http.Rotation

/-!
Faults on this side that clients cannot tell apart.

Whatever went wrong inside, and however it was worded, a request is answered with one document and
nothing in it comes from the fault.  A passed deadline is answered with another such document,
whichever step it stopped.  So of two runs that fail, in whatever worlds, the responses to a request
differ at most in the identifier of the request.
-/

namespace TokenAuthority.Http

namespace ViewFailure

/-- A fault on this side that is no passed deadline, or a fault that nothing accounts for. -/
inductive IsConcealed : ViewFailure → Prop where
  | internal {error : ServiceError} (category : error.category = .internal) :
      IsConcealed (.service error)
  | unexpected (fault : String) : IsConcealed (.unexpected fault)

inductive IsTimeout : ViewFailure → Prop where
  | passed {error : ServiceError} (category : error.category = .deadlineExceeded) :
      IsTimeout (.service error)

/-- Whether clients must not tell two failures apart. -/
def Resembles (first second : ViewFailure) : Prop :=
  first.IsConcealed ∧ second.IsConcealed ∨ first.IsTimeout ∧ second.IsTimeout

variable {failure first second : ViewFailure}

theorem IsConcealed.shownAs_eq (concealed : failure.IsConcealed) (path : String) :
    failure.shownAs path = .internal := by
  cases concealed with
  | @internal error category =>
      show ApiError.ofService error = .internal
      unfold ApiError.ofService
      rw [category]
  | unexpected fault => exact shownAs_unexpected fault path

theorem IsTimeout.shownAs_eq (timeout : failure.IsTimeout) (path : String) :
    failure.shownAs path = .timedOut := by
  cases timeout with
  | @passed error category =>
      show ApiError.ofService error = .timedOut
      unfold ApiError.ofService
      rw [category]

theorem Resembles.shownAs_eq (resembles : first.Resembles second) (path : String) :
    first.shownAs path = second.shownAs path := by
  rcases resembles with ⟨concealed, alsoConcealed⟩ | ⟨timeout, alsoTimeout⟩
  · rw [concealed.shownAs_eq, alsoConcealed.shownAs_eq]
  · rw [timeout.shownAs_eq, alsoTimeout.shownAs_eq]

end ViewFailure

/-- A response to a request that tells of a failure no more than some fixed words. -/
def plainRefusal (request : Request) (status : Int) (title detail code : String)
    (requestId : String) : Response where
  status := status
  content := .problem
    { status, title, detail, path := some request.path, code, details := .null, requestId }
  headersOnly := request.method == "HEAD"
  headers := [("X-Request-ID", requestId)]

/-- A response as it would be under another identifier of the request. -/
def Response.renamed (response : Response) (requestId : String) : Response where
  status := response.status
  content :=
    match response.content with
    | .problem problem => .problem { problem with requestId }
    | content => content
  headersOnly := response.headersOnly
  headers := [("X-Request-ID", requestId)]

/-- The response to a failure while a request is served. -/
def refusal (request : Request) (failure : ViewFailure) (world : World) : Response :=
  let (response, world) := respond request (.error failure) world
  (complete request response world).1.1

variable (request : Request)

theorem refusal_of_serves (failure : ViewFailure) {world : World} {requestId : String}
    (assigned : world.Serves requestId) :
    refusal request failure world = responseTo request requestId (.error failure) := by
  obtain ⟨reports, responded⟩ := exists_respond_eq request (.error failure) assigned
  unfold refusal
  rw [responded]
  simp only [complete_of_serves request _ (assigned.withReports reports)]
  rfl

theorem responseTo_of_concealed {failure : ViewFailure} (concealed : failure.IsConcealed)
    (requestId : String) :
    responseTo request requestId (.error failure) =
      plainRefusal request 500 "Internal Server Error" "Unexpected error" "internal_server_error"
        requestId := by
  unfold responseTo ViewFailure.document
  simp only [concealed.shownAs_eq]
  rfl

theorem responseTo_of_timeout {failure : ViewFailure} (timeout : failure.IsTimeout)
    (requestId : String) :
    responseTo request requestId (.error failure) =
      plainRefusal request 503 "Service Unavailable" "Request timed out" "service_unavailable"
        requestId := by
  unfold responseTo ViewFailure.document
  simp only [timeout.shownAs_eq]
  rfl

/-- Failures that resemble each other get the same response under the same identifier. -/
theorem responseTo_congr {first second : ViewFailure} (resembles : first.Resembles second)
    (requestId : String) :
    responseTo request requestId (.error first) =
      responseTo request requestId (.error second) := by
  unfold responseTo ViewFailure.document
  simp only [resembles.shownAs_eq]

theorem renamed_responseTo (failure : ViewFailure) (requestId other : String) :
    (responseTo request requestId (.error failure)).renamed other =
      responseTo request other (.error failure) := rfl

/-! ### Runs that fail -/

/-- Whether a request that an application serves in a world fails in a certain way. -/
def FailsWith (app : App) (request : Request) (world : World) (failure : ViewFailure) : Prop :=
  (dispatch app request (prepare (beginScope request world)).2).1 = .error failure

variable {request}

theorem FailsWith.exists_response_eq {app : App} {world : World} {failure : ViewFailure}
    (fails : FailsWith app request world failure) :
    ∃ requestId, (serve app request world).1.response =
      responseTo request requestId (.error failure) := by
  obtain ⟨requestId, drawn, outcome, left, events, prepared, -, dispatched, -, served⟩ :=
    exists_serve_eq app request world
  unfold FailsWith at fails
  rw [prepared, dispatched] at fails
  rw [served, ← fails]
  exact ⟨requestId, rfl⟩

/-- Every fault on this side is answered with the same words, and so is every passed deadline.  Two
runs of a request that fail so get responses that differ at most in the identifier of the
request. -/
theorem failures_concealed (request : Request) :
    (∀ failure : ViewFailure, failure.IsConcealed → ∀ requestId (world : World),
      world.Serves requestId → refusal request failure world =
        plainRefusal request 500 "Internal Server Error" "Unexpected error"
          "internal_server_error" requestId) ∧
    (∀ failure : ViewFailure, failure.IsTimeout → ∀ requestId (world : World),
      world.Serves requestId → refusal request failure world =
        plainRefusal request 503 "Service Unavailable" "Request timed out" "service_unavailable"
          requestId) ∧
    ∀ (app other : App) (world later : World) (first second : ViewFailure),
      FailsWith app request world first → FailsWith other request later second →
      first.Resembles second →
        ∀ requestId, (serve app request world).1.response.renamed requestId =
          (serve other request later).1.response.renamed requestId := by
  refine ⟨?_, ?_, ?_⟩
  · intro failure concealed requestId world assigned
    rw [refusal_of_serves request failure assigned, responseTo_of_concealed request concealed]
  · intro failure timeout requestId world assigned
    rw [refusal_of_serves request failure assigned, responseTo_of_timeout request timeout]
  · intro app other world later first second fails alsoFails resembles requestId
    obtain ⟨id, response⟩ := fails.exists_response_eq
    obtain ⟨otherId, otherResponse⟩ := alsoFails.exists_response_eq
    rw [response, otherResponse, renamed_responseTo, renamed_responseTo]
    exact responseTo_congr request resembles requestId

/-! ### Rotations that fail -/

section Rotating

variable {app : App} {request : Request} {world : World}
  (leads : route app.mount request.path request.verb = .to .tokens)

include leads

theorem failsWith_of_tokens {failure : ViewFailure}
    (fails : ∀ requestId drawn, ∃ left,
      View.runIn (View.tokens app request) (entered request world requestId drawn) =
        (.error failure, left)) :
    FailsWith app request world failure := by
  obtain ⟨id, drawn, prepared, -⟩ := exists_prepare_eq request world
  obtain ⟨left, ran⟩ := fails id drawn
  unfold FailsWith
  rw [prepared]
  exact congrArg Prod.fst (dispatch_of_route leads ran)

/-- A request with nothing to rotate fails for the reason that there is nothing. -/
theorem failsWith_of_rotationOf {failure : ViewFailure}
    (nothing : ∀ requestId drawn,
      View.rotationOf app request requestId (entered request world requestId drawn) =
        .error failure) :
    FailsWith app request world failure := by
  apply failsWith_of_tokens leads
  intro requestId drawn
  obtain ⟨reports, ran⟩ :=
    View.runIn_tokens app request (serves_entered request world requestId drawn)
  simp only [nothing] at ran
  exact ⟨_, ran⟩

/-- A request for rotation fails as the call for a pair does. -/
theorem failsWith_of_newPair {claims : RefreshClaims} {user : UserSnapshot} {failure : Failure}
    (asked : ∀ requestId drawn, ∃ context,
      View.rotationOf app request requestId (entered request world requestId drawn) =
          .ok (context, claims, user) ∧
        ∀ reports, ∃ left, Call.runIn (app.service.newPair (some context) user claims.token.text)
          ((entered request world requestId drawn).withReports reports) = (.error failure, left)) :
    FailsWith app request world (.ofCall failure) := by
  apply failsWith_of_tokens leads
  intro requestId drawn
  obtain ⟨context, rotation, fails⟩ := asked requestId drawn
  obtain ⟨reports, ran⟩ :=
    View.runIn_tokens app request (serves_entered request world requestId drawn)
  obtain ⟨left, called⟩ := fails reports
  simp only [rotation, View.runIn_exchange called] at ran
  exact ⟨_, ran⟩

end Rotating

/-! ### A sample -/

/-- The application of the sample with a timeout, or with what is none. -/
def timedApp (timeout : Setting) : App :=
  { listingApp with settings := [("HANDLER_TIMEOUT", timeout)] }

theorem route_timedApp (timeout : Setting) (token : String) :
    route (timedApp timeout).mount (rotationRequest "/api/v1/tokens" token).path
      (rotationRequest "/api/v1/tokens" token).verb = .to .tokens := route_rotationRequest token

theorem contextOf_timedApp {timeout : Setting} {seconds : Option Binary64}
    (told : View.timeoutOf timeout = .ok seconds) (requestId : String) (clock : Clock) :
    View.contextOf (timedApp timeout) requestId clock =
      .ok (Context.withTimeout clock seconds (some requestId)) := by
  have found : (timedApp timeout).settings.find? "HANDLER_TIMEOUT" = some timeout := rfl
  unfold View.contextOf
  rw [found, Option.getD_some, told]
  rfl

theorem timeoutOf_one : View.timeoutOf (.value (.int 1)) = .ok (some (.ofInt 1)) := by
  have isFinite : Binary64.ofInt 1 = .finite false Binary64.one := by decide +kernel
  have isSet : (Setting.value (.int 1)).isUnset = false := by decide
  unfold View.timeoutOf
  simp only [isSet, isFinite]
  rfl

/-- A call that has expired at once does not look at the presented token. -/
theorem rotationOf_of_expired {token : String} (nonempty : (token : Text) ≠ []) {timeout : Setting}
    {context : Context} {requestId : String} {later : World}
    (found : View.contextOf (timedApp timeout) requestId later.clock = .ok context)
    (expired : context.hasExpired later.clock later.raised = true) :
    View.rotationOf (timedApp timeout) (rotationRequest "/api/v1/tokens" token) requestId later =
      .error (.ofCall (.service (.deadlinePassed "validating refresh token"))) := by
  have isExpired : ((timedApp timeout).service.resolve (some context)).hasExpired later.clock
      later.raised = true := expired
  unfold View.rotationOf
  rw [presentedBy_rotationRequest rfl rfl _ nonempty, ok_bind, found, ok_bind]
  unfold TokenService.validatedRefresh TokenService.validated
  rw [if_pos isExpired]
  rfl

section Sampling

variable {token : String} {world : World} (signedIn : SignedIn token world)

include signedIn

theorem SignedIn.rotationOf_eq (timeout : Setting) {context : Context} {requestId : String}
    {later : World} (sameClock : later.clock = World.sample.clock)
    (found : View.contextOf (timedApp timeout) requestId World.sample.clock = .ok context)
    (active : context.hasExpired World.sample.clock later.raised = false) :
    View.rotationOf (timedApp timeout) (rotationRequest "/api/v1/tokens" token) requestId later =
      .ok (context, ⟨"u", .numbered 1⟩, sampleUser) := by
  have verified := signedIn.verified
  rw [signedIn.clock] at verified
  have isActive : ((timedApp timeout).service.resolve (some context)).hasExpired later.clock
      later.raised = false := by
    rw [sameClock]
    exact active
  unfold View.rotationOf
  rw [presentedBy_rotationRequest rfl rfl _ signedIn.nonempty, ok_bind, sameClock, found, ok_bind,
    TokenService.validatedRefresh_of_active isActive, sameClock]
  have sameSecret : (timedApp timeout).service.policy.secret = sampleApp.service.policy.secret :=
    rfl
  have configured : (timedApp timeout).directory = some ⟨[sampleUser]⟩ := rfl
  have listed : UserDirectory.find? ⟨[sampleUser]⟩ "u" = some sampleUser := by decide
  rw [sameSecret, verified]
  simp only [configured, Except.mapError, ok_bind, listed]
  rfl

/-- The rotation fails as its refresh token is settled, if that fails in all later worlds alike. -/
theorem SignedIn.failsWith_of_settles {timeout : Setting} {before : World} {failure : Failure}
    (sameClock : before.clock = World.sample.clock)
    (settles : ∀ requestId, ∃ context,
      View.contextOf (timedApp timeout) requestId World.sample.clock = .ok context ∧
        context.hasExpired World.sample.clock before.raised = false ∧
        ∀ refresh drawn reports, ∃ after,
          TokenService.Settles (sampleApp.service.resolve (some context)) sampleUser.id
            (TokenId.numbered 1).text refresh
            ((entered (rotationRequest "/api/v1/tokens" token) before requestId drawn).withReports
              reports).drawing (.error failure) after) :
    FailsWith (timedApp timeout) (rotationRequest "/api/v1/tokens" token) before
      (.ofCall failure) := by
  have leads := route_timedApp timeout token
  apply failsWith_of_newPair leads
  intro requestId drawn
  obtain ⟨context, found, active, settling⟩ := settles requestId
  refine ⟨context, signedIn.rotationOf_eq timeout sameClock found active, ?_⟩
  intro reports
  have dated :
      sampleApp.service.IsDatedAt ((entered (rotationRequest "/api/v1/tokens" token) before
        requestId drawn).withReports reports).clock.wall := by
    show sampleApp.service.IsDatedAt before.clock.wall
    rw [sameClock]
    exact isDatedAt_sampleApp
  have userPart : StoreKey.isPart sampleUser.id = true := by decide
  obtain ⟨identity, refresh, admitted, minted⟩ :=
    TokenService.exists_minted_rotation signs_sampleApp dated userPart (.numbered 1)
  obtain ⟨after, settled⟩ := settling refresh drawn reports
  have ends : TokenService.Ends sampleApp.service (some context) sampleUser
      (TokenId.numbered 1).text ((entered (rotationRequest "/api/v1/tokens" token) before
        requestId drawn).withReports reports) (.error failure)
      after := .settled admitted minted settled
  obtain ⟨left, ran⟩ := TokenService.runIn_newPair_of_ends ends
  exact ⟨_, ran⟩

/-- While nothing can be registered, the rotation fails inside. -/
theorem SignedIn.failsWith_unregistered :
    FailsWith (timedApp (.value .null)) (rotationRequest "/api/v1/tokens" token)
      { world with faults := { set := .everywhere } } (.ofCall (.service .storeUnavailable)) := by
  refine signedIn.failsWith_of_settles ?_ ?_
  · exact signedIn.clock
  intro requestId
  refine ⟨_, contextOf_timedApp rfl requestId _, rfl, ?_⟩
  intro refresh drawn reports
  refine ⟨_, .unregistered rfl ?_⟩
  have fails : World.registeringFails { world with faults := { set := .everywhere } }
      (StoreKey.join sampleUser.id refresh.id.text) = true := by
    unfold World.registeringFails
    split <;> rfl
  exact if_pos fails

/-- When a second passes while the new token is registered, the rotation stops at its deadline. -/
theorem SignedIn.failsWith_late :
    FailsWith (timedApp (.value (.int 1))) (rotationRequest "/api/v1/tokens" token)
      { world with duringPut := { elapsed := 1000 } }
      (.ofCall (.service (.deadlinePassed "deleting previous refresh token"))) := by
  refine signedIn.failsWith_of_settles ?_ ?_
  · exact signedIn.clock
  intro requestId
  have expires := Context.hasExpired_withTimeout_eq World.sample.clock (some (.ofInt 1))
    (some requestId)
  have active (raised : List Signal) : (Context.withTimeout World.sample.clock (some (.ofInt 1))
      (some requestId)).hasExpired World.sample.clock raised = false := by
    rw [expires]
    decide +kernel
  have expired (raised : List Signal) : (Context.withTimeout World.sample.clock (some (.ofInt 1))
      (some requestId)).hasExpired (World.sample.clock.advance 1000) raised = true := by
    rw [expires]
    decide +kernel
  refine ⟨_, contextOf_timedApp timeoutOf_one requestId _, active _, ?_⟩
  intro refresh drawn reports
  refine ⟨_, .orphaned ?_ ?_ (TokenId.text_ne_nil _) ?_⟩
  · show Context.hasExpired _ world.clock _ = false
    rw [signedIn.clock]
    exact active _
  · exact StoreAccess.registeringFailure?_eq_none signedIn.still.faults
      ((Store.takes_join_text _ _ refresh.id).trans (takes_sampleUser world))
  · show Context.hasExpired _ (world.clock.advance 1000) _ = true
    rw [signedIn.clock]
    exact expired _

/-- A timeout that the clock is too coarse for leaves no time for the presented token. -/
theorem SignedIn.failsWith_early :
    FailsWith (timedApp (.value (.float (.finite false 1))))
      (rotationRequest "/api/v1/tokens" token) (world.advance 1000)
      (.ofCall (.service (.deadlinePassed "validating refresh token"))) := by
  have leads := route_timedApp (.value (.float (.finite false 1))) token
  have told : View.timeoutOf (.value (.float (.finite false 1))) = .ok (some (.finite false 1)) :=
    rfl
  have clock : (world.advance 1000).clock = World.sample.clock.advance 1000 :=
    congrArg (Clock.advance · 1000) signedIn.clock
  apply failsWith_of_rotationOf leads
  intro requestId drawn
  refine rotationOf_of_expired signedIn.nonempty (contextOf_timedApp told requestId _) ?_
  rw [Context.hasExpired_withTimeout_eq, clock_entered, clock]
  decide +kernel

/-- A timeout that is no number is an unexpected fault. -/
theorem SignedIn.failsWith_untimed :
    FailsWith (timedApp (.value (.text "soon"))) (rotationRequest "/api/v1/tokens" token) world
      (.unexpected kindFault) := by
  have leads := route_timedApp (.value (.text "soon")) token
  apply failsWith_of_rotationOf leads
  intro requestId drawn
  unfold View.rotationOf
  rw [presentedBy_rotationRequest rfl rfl _ signedIn.nonempty]
  rfl

end Sampling

/-- The world of the sample while it serves a request. -/
def servingWorld : World :=
  { World.sample with scope := some { headers := [], requestId := some "r" } }

/-- A rotation that cannot register its token and one whose timeout is no number are answered alike,
and so are two that hit their deadlines at different steps. -/
theorem rotations_concealed :
    ∃ token world,
      let request := rotationRequest "/api/v1/tokens" token
      let unregistered := { world with faults := { set := .everywhere } }
      let slow := { world with duringPut := { elapsed := 1000 } }
      let brief := timedApp (.value (.float (.finite false 1)))
      servingWorld.Serves "r" ∧
      (refusal request (.service (.worded .internal (some "no shard for user u"))) servingWorld =
          plainRefusal request 500 "Internal Server Error" "Unexpected error"
            "internal_server_error" "r" ∧
        FailsWith (timedApp (.value .null)) request unregistered
          (.ofCall (.service .storeUnavailable)) ∧
        FailsWith (timedApp (.value (.text "soon"))) request world (.unexpected kindFault) ∧
        (serve (timedApp (.value .null)) request unregistered).1.response.renamed "r" =
          (serve (timedApp (.value (.text "soon"))) request world).1.response.renamed "r") ∧
      (refusal request (.service (.deadlinePassed "signing out")) servingWorld =
          plainRefusal request 503 "Service Unavailable" "Request timed out" "service_unavailable"
            "r" ∧
        FailsWith (timedApp (.value (.int 1))) request slow
          (.ofCall (.service (.deadlinePassed "deleting previous refresh token"))) ∧
        FailsWith brief request (world.advance 1000)
          (.ofCall (.service (.deadlinePassed "validating refresh token"))) ∧
        (serve (timedApp (.value (.int 1))) request slow).1.response.renamed "r" =
          (serve brief request (world.advance 1000)).1.response.renamed "r") := by
  obtain ⟨token, world, signedIn⟩ := exists_signedIn
  obtain ⟨concealed, timedOut, indistinct⟩ :=
    failures_concealed (rotationRequest "/api/v1/tokens" token)
  have unregistered := signedIn.failsWith_unregistered
  have untimed := signedIn.failsWith_untimed
  have late := signedIn.failsWith_late
  have early := signedIn.failsWith_early
  have serves : servingWorld.Serves "r" := ⟨_, rfl, rfl⟩
  refine ⟨token, world, serves, ⟨?_, unregistered, untimed, ?_⟩, ?_, late, early, ?_⟩
  · exact concealed _ (.internal rfl) "r" _ serves
  · have inside : (ViewFailure.service .storeUnavailable).IsConcealed := .internal rfl
    exact indistinct _ _ _ _ _ _ unregistered untimed (.inl ⟨inside, .unexpected _⟩) "r"
  · exact timedOut _ (.passed rfl) "r" _ serves
  · exact indistinct _ _ _ _ _ _ late early (.inr ⟨.passed rfl, .passed rfl⟩) "r"

end TokenAuthority.Http
