import TokenAuthority.Http.Exchange
import TokenAuthority.Proofs.Http.RequestId
import TokenAuthority.Proofs.Service.Session

/-!
Running views.

What a view finds in its request and in the settings does not depend on the world, and a caller is
judged by the clocks alone.  These parts are told without the world that a view acts on; of the
views themselves a lemma each tells how they go.
-/

namespace TokenAuthority

theorem UserDirectory.id_of_find? {directory : UserDirectory} {id : Text} {user : UserSnapshot}
    (listed : directory.find? id = some user) : user.id = id := by
  simpa using List.find?_some listed

namespace Http

namespace View

variable {α β : Type}

/-- The outcome of a view in a world, and the world that the view leaves behind. -/
def runIn (view : View α) (world : World) : Except ViewFailure α × World :=
  view.run.run world

@[simp]
theorem runIn_pure (value : α) (world : World) :
    runIn (pure value) world = (.ok value, world) := rfl

@[simp]
theorem runIn_fail (failure : ViewFailure) (world : World) :
    runIn (fail failure : View α) world = (.error failure, world) := rfl

@[simp]
theorem runIn_get (world : World) : runIn get world = (.ok world, world) := rfl

@[simp]
theorem runIn_set (world after : World) : runIn (set after) world = (.ok (), after) := rfl

/-- A view goes on with the value of its first part, or ends where that part fails. -/
theorem runIn_bind (view : View α) (next : α → View β) (world : World) :
    runIn (view >>= next) world =
      match runIn view world with
      | (.ok value, after) => runIn (next value) after
      | (.error failure, after) => (.error failure, after) := by
  unfold runIn
  rw [ExceptT.run_bind, StateT.run_bind]
  cases view.run.run world with
  | mk outcome after => cases outcome <;> rfl

theorem runIn_bind_of_ok {view : View α} {world after : World} {value : α}
    (ran : runIn view world = (.ok value, after)) (next : α → View β) :
    runIn (view >>= next) world = runIn (next value) after := by
  rw [runIn_bind, ran]

theorem runIn_bind_of_error {view : View α} {world after : World} {failure : ViewFailure}
    (ran : runIn view world = (.error failure, after)) (next : α → View β) :
    runIn (view >>= next) world = (.error failure, after) := by
  rw [runIn_bind, ran]

/-- A call of the service goes in a view as it goes alone. -/
theorem runIn_call {inner : Call α} {world after : World} {outcome : Except Failure α}
    (ran : Call.runIn inner world = (outcome, after)) :
    runIn (call inner) world = (outcome.mapError .ofCall, after) := by
  have isRun : inner world = (outcome, after) := ran
  show call inner world = _
  unfold call
  rw [isRun]
  cases outcome <;> rfl

/-! ### What a request says -/

/-- The octets of a body, or why they cannot be had. -/
def octetsOf (app : App) (request : Request) : Except ViewFailure Octets :=
  match request.length? with
  | none => .ok []
  | some length =>
      match isBeyond length ((app.settings.find? "MAX_CONTENT_LENGTH").getD (.value .null)) with
      | .error failure => .error failure
      | .ok true => .error .bodyTooLong
      | .ok false => .ok request.body

/-- The value that octets stand for; it is an empty object unless they are JSON that is set. -/
def valueOf (app : App) (octets : Octets) : Except ViewFailure Json :=
  match Json.readOctets app.machine.levels octets with
  | .ok value => .ok (if value.isUnset then .object [] else value)
  | .error .malformed => .ok (.object [])
  | .error .tooDeep => .error (.unexpected depthFault)

/-- The value of a body, or why it cannot be read. -/
def contentOf (app : App) (request : Request) : Except ViewFailure Json :=
  if !request.isJson then .ok (.object []) else (octetsOf app request).bind (valueOf app)

/-- The context of a request that comes at a reading of the clocks. -/
def contextOf (app : App) (requestId : String) (clock : Clock) : Except ViewFailure Context :=
  (timeoutOf ((app.settings.find? "HANDLER_TIMEOUT").getD (.value .null))).map fun timeout =>
    Context.withTimeout clock timeout (some requestId)

theorem runIn_octets (app : App) (request : Request) (world : World) :
    runIn (octets app request) world = (octetsOf app request, world) := by
  unfold octets octetsOf
  cases request.length? with
  | none => rfl
  | some length =>
      simp only
      cases isBeyond length ((app.settings.find? "MAX_CONTENT_LENGTH").getD (.value .null)) with
      | error failure => rfl
      | ok isTooLong => cases isTooLong <;> rfl

theorem runIn_body (app : App) (request : Request) (world : World) :
    runIn (body app request) world = (contentOf app request, world) := by
  have ran := runIn_octets app request world
  unfold body contentOf
  cases request.isJson with
  | false => rfl
  | true =>
      simp only [Bool.not_true, Bool.false_eq_true, if_false]
      cases octetsFound : octetsOf app request with
      | error failure =>
          rw [octetsFound] at ran
          rw [runIn_bind_of_error ran]
          rfl
      | ok octets =>
          rw [octetsFound] at ran
          rw [runIn_bind_of_ok ran]
          unfold valueOf Except.bind
          simp only
          cases Json.readOctets app.machine.levels octets with
          | ok value => rfl
          | error failure => cases failure <;> rfl

theorem runIn_context (app : App) {requestId : String} {world : World}
    (assigned : world.Serves requestId) :
    runIn (context app) world = (contextOf app requestId world.clock, world) := by
  have asked : runIn (modifyGet RequestId.ensure) world = (.ok requestId, world) := by
    have ran : runIn (modifyGet RequestId.ensure) world =
        (.ok (RequestId.ensure world).1, (RequestId.ensure world).2) := rfl
    rw [ran, RequestId.ensure_of_serves assigned]
  unfold context contextOf
  rw [runIn_bind_of_ok asked]
  cases timeoutOf ((app.settings.find? "HANDLER_TIMEOUT").getD (.value .null)) <;> rfl

/-- The context of a request cannot be cancelled. -/
theorem signal_of_contextOf {app : App} {requestId : String} {clock : Clock} {context : Context}
    (told : contextOf app requestId clock = .ok context) : context.signal = none := by
  unfold contextOf at told
  cases timeout : timeoutOf ((app.settings.find? "HANDLER_TIMEOUT").getD (.value .null)) with
  | error failure =>
      rw [timeout] at told
      cases told
  | ok seconds =>
      rw [timeout] at told
      cases told
      rfl

/-! ### Callers -/

/-- Who sends a request, or why it cannot be told. -/
def callerOf (app : App) (request : Request) (requestId : String) (world : World) :
    Except ViewFailure (Context × UserSnapshot) := do
  let context ← contextOf app requestId world.clock
  match request.bearerToken? with
  | none =>
      .error
        (.unauthorized "Must provide Authorization header with format `Bearer \x7btoken\x7d`")
  | some token =>
      let user ← (app.service.validatedIdentity (some context) token world).mapError .ofCall
      return (context, user)

/-- A caller holds an identity token that is verified. -/
theorem of_callerOf_eq_ok {app : App} {request : Request} {requestId : String} {world : World}
    {context : Context} {user : UserSnapshot}
    (told : callerOf app request requestId world = .ok (context, user)) :
    ∃ token, request.bearerToken? = some token ∧
      IdentityToken.verify? token (some app.service.policy.publicKey) world.clock.wall =
        some user := by
  unfold callerOf at told
  obtain ⟨found, -, told⟩ := exists_of_bind_eq_ok told
  split at told
  · cases told
  · next token presented =>
      obtain ⟨bearer, validated, told⟩ := exists_of_bind_eq_ok told
      cases told
      exact ⟨token, presented,
        (TokenService.of_validated_eq_ok (of_mapError_eq_ok validated)).2⟩

theorem runIn_bearer (app : App) (request : Request) {requestId : String} {world : World}
    (assigned : world.Serves requestId) :
    ∃ reports, runIn (bearer app request) world =
      (callerOf app request requestId world, world.withReports reports) := by
  have ranContext := runIn_context app assigned
  unfold bearer callerOf
  cases found : contextOf app requestId world.clock with
  | error failure =>
      rw [found] at ranContext
      exact ⟨world.reports, runIn_bind_of_error ranContext _⟩
  | ok context =>
      rw [found] at ranContext
      rw [runIn_bind_of_ok ranContext]
      cases request.bearerToken? with
      | none => exact ⟨world.reports, rfl⟩
      | some token =>
          obtain ⟨reports, ran⟩ :=
            app.service.runIn_validateIdentity (some context) token world
          refine ⟨reports, ?_⟩
          simp only [runIn_bind, runIn_call ran, ok_bind]
          cases app.service.validatedIdentity (some context) token world <;> rfl

theorem runIn_profile (app : App) (request : Request) {requestId : String} {world : World}
    (assigned : world.Serves requestId) :
    ∃ reports, runIn (profile app request) world =
      ((callerOf app request requestId world).map fun caller =>
        { body := .object [("user", caller.2.dump)] }, world.withReports reports) := by
  obtain ⟨reports, ran⟩ := runIn_bearer app request assigned
  refine ⟨reports, ?_⟩
  unfold profile
  rw [runIn_bind, ran]
  cases callerOf app request requestId world <;> rfl

/-- What answers a request for sign-out. -/
def farewell : Answer where
  body := .object [("message", .text "the user signed out successfully!")]

/-- The sign-out of a caller. -/
def leave (app : App) (context : Context) (user : UserSnapshot) : View Answer := do
  let _ ← call (app.service.signOut (some context) user.id)
  return farewell

theorem runIn_leave {app : App} {context : Context} {user : UserSnapshot} {world after : World}
    {outcome : Except Failure Nat}
    (ran : Call.runIn (app.service.signOut (some context) user.id) world = (outcome, after)) :
    runIn (leave app context user) world =
      ((outcome.mapError .ofCall).map fun _ => farewell, after) := by
  unfold leave
  rw [runIn_bind, runIn_call ran]
  cases outcome <;> rfl

/-- A request for sign-out is refused, or its caller is signed out. -/
theorem runIn_signOut (app : App) (request : Request) {requestId : String} {world : World}
    (assigned : world.Serves requestId) :
    ∃ reports, runIn (signOut app request) world =
      match callerOf app request requestId world with
      | .error failure => (.error failure, world.withReports reports)
      | .ok (context, user) => runIn (leave app context user) (world.withReports reports) := by
  obtain ⟨reports, ran⟩ := runIn_bearer app request assigned
  refine ⟨reports, ?_⟩
  unfold signOut
  rw [runIn_bind, ran]
  cases callerOf app request requestId world <;> rfl

/-- Asking for the state of the service makes no difference but in the reports. -/
theorem runIn_health (app : App) (world : World) :
    ∃ outcome reports, runIn (health app) world = (outcome, world.withReports reports) := by
  have ranState : ∃ state reports, runIn (storeState app) world =
      (.ok state, world.withReports reports) := by
    unfold storeState
    cases app.hasKeyServer with
    | false => exact ⟨_, world.reports, rfl⟩
    | true =>
        cases ping : world.faults.ping with
        | false => exact ⟨"ok", world.reports, by simp [runIn_bind, ping]⟩
        | true => exact ⟨_, _, by simp [runIn_bind, ping]; rfl⟩
  obtain ⟨state, reports, ran⟩ := ranState
  unfold health
  rw [runIn_bind_of_ok ran]
  cases (app.settings.find? "APP_VERSION").getD (.value (.text "dev")) with
  | raw _ => exact ⟨_, reports, rfl⟩
  | value version => exact ⟨_, reports, rfl⟩

/-! ### Rotations -/

/-- The refresh token that a request presents, or why it presents none. -/
def presentedBy (app : App) (request : Request) : Except ViewFailure Text := do
  let value ← contentOf app request
  (loadRotationRequest value).mapError .validation

/-- What a request presents for rotation and for whom, or why there is nothing to rotate. -/
def rotationOf (app : App) (request : Request) (requestId : String) (world : World) :
    Except ViewFailure (Context × RefreshClaims × UserSnapshot) := do
  let token ← presentedBy app request
  let context ← contextOf app requestId world.clock
  let claims ← (app.service.validatedRefresh (some context) token world).mapError .ofCall
  match app.directory with
  | none => .error (.unexpected missingFault)
  | some directory =>
      match directory.find? claims.user with
      | none => .error (.missing ("User not found: " ++ claims.user))
      | some user => return (context, claims, user)

/-- What a request has presented when there is something to rotate. -/
structure Rotates (app : App) (request : Request) (requestId : String) (world : World)
    (context : Context) (claims : RefreshClaims) (user : UserSnapshot) : Prop where
  verified : ∃ token, presentedBy app request = .ok token ∧
    RefreshToken.verify? token app.service.policy.secret world.clock.wall = some claims
  found : contextOf app requestId world.clock = .ok context
  active : context.hasExpired world.clock world.raised = false
  listed : ∃ directory, app.directory = some directory ∧ directory.find? claims.user = some user

theorem of_rotationOf_eq_ok {app : App} {request : Request} {requestId : String} {world : World}
    {context : Context} {claims : RefreshClaims} {user : UserSnapshot}
    (told : rotationOf app request requestId world = .ok (context, claims, user)) :
    Rotates app request requestId world context claims user := by
  unfold rotationOf at told
  obtain ⟨token, presented, told⟩ := exists_of_bind_eq_ok told
  obtain ⟨found, isContext, told⟩ := exists_of_bind_eq_ok told
  obtain ⟨trusted, validated, told⟩ := exists_of_bind_eq_ok told
  obtain ⟨active, verified⟩ := TokenService.of_validated_eq_ok (of_mapError_eq_ok validated)
  split at told
  · cases told
  · next directory configured =>
      split at told
      · cases told
      · next current listed =>
          cases told
          exact ⟨⟨token, presented, verified⟩, isContext, active, directory, configured, listed⟩

/-- What answers a request for rotation. -/
def pairAnswer (pair : TokenPair) : Answer where
  body := .object [("tokens", .object
    [("idToken", .text pair.identity.signed), ("refreshToken", .text pair.refresh.signed)])]

/-- The exchange of what a request presents. -/
def exchange (app : App) (context : Context) (claims : RefreshClaims) (user : UserSnapshot) :
    View Answer := do
  let pair ← call (app.service.newPair (some context) user claims.token.text)
  return pairAnswer pair

theorem runIn_exchange {app : App} {context : Context} {claims : RefreshClaims}
    {user : UserSnapshot} {world after : World} {outcome : Except Failure TokenPair}
    (ran : Call.runIn (app.service.newPair (some context) user claims.token.text) world =
      (outcome, after)) :
    runIn (exchange app context claims user) world =
      ((outcome.mapError .ofCall).map pairAnswer, after) := by
  unfold exchange
  rw [runIn_bind, runIn_call ran]
  cases outcome <;> rfl

/-- A request for rotation is refused before anything is exchanged, or what it presents is
exchanged. -/
theorem runIn_tokens (app : App) (request : Request) {requestId : String} {world : World}
    (assigned : world.Serves requestId) :
    ∃ reports, runIn (tokens app request) world =
      match rotationOf app request requestId world with
      | .error failure => (.error failure, world.withReports reports)
      | .ok (context, claims, user) =>
          runIn (exchange app context claims user) (world.withReports reports) := by
  have ranBody := runIn_body app request world
  have ranContext := runIn_context app assigned
  unfold tokens rotationOf presentedBy
  cases content : contentOf app request with
  | error failure =>
      rw [content] at ranBody
      exact ⟨world.reports, runIn_bind_of_error ranBody _⟩
  | ok value =>
    rw [content] at ranBody
    rw [runIn_bind_of_ok ranBody]
    cases loaded : loadRotationRequest value with
    | error problems =>
        exact ⟨world.reports, by simp only [loaded, ok_bind]; rfl⟩
    | ok token =>
      simp only [loaded, pure_bind, ok_bind, Except.mapError]
      cases found : contextOf app requestId world.clock with
      | error failure =>
          rw [found] at ranContext
          exact ⟨world.reports, runIn_bind_of_error ranContext _⟩
      | ok context =>
        rw [found] at ranContext
        rw [runIn_bind_of_ok ranContext]
        obtain ⟨reports, ran⟩ :=
          app.service.runIn_validateRefresh (some context) token world
        have called := runIn_call ran
        refine ⟨reports, ?_⟩
        simp only [ok_bind]
        cases judged : app.service.validatedRefresh (some context) token world with
        | error failure =>
            rw [judged] at called
            exact runIn_bind_of_error called _
        | ok claims =>
          rw [judged] at called
          rw [runIn_bind_of_ok called]
          unfold directory
          cases app.directory with
          | none => rfl
          | some directory =>
              simp only [ok_bind, pure_bind]
              cases directory.find? claims.user <;> rfl

end View

end Http

end TokenAuthority
