import TokenAuthority.Http.App
import TokenAuthority.Http.Problem
import TokenAuthority.Http.Request
import TokenAuthority.Http.RequestId

/-!
The views behind the routes.

A view acts on the world and answers with a status and a value, or fails in one of the ways for
which there is a problem document.
-/

namespace TokenAuthority.Http

/-- How a view fails.  The statuses of what it fails with are registered. -/
inductive ViewFailure where
  | api (error : ApiError) (registered : error.IsRegistered)
  | service (error : ServiceError)
  | validation (problems : FormProblems)
  | protocol (status : Int) (description : String)
      (registered : (statusPhrase? status).isSome = true)
  /-- A fault that nothing accounts for, of some kind. -/
  | unexpected (fault : String)

structure Answer where
  status : Int := 200
  body : Json

abbrev View (α : Type) := ExceptT ViewFailure (StateM World) α

def rangeFault : String := "OverflowError"

def kindFault : String := "TypeError"

def missingFault : String := "RuntimeError"

def depthFault : String := "RecursionError"

def valueFault : String := "ValueError"

def encodingFault : String := "UnicodeEncodeError"

def decodingFault : String := "UnicodeDecodeError"

namespace ViewFailure

def ofCall : Failure → ViewFailure
  | .service error => .service error
  | .dateOutOfRange => .unexpected rangeFault
  | .keyPart _ => .unexpected valueFault
  | .unencodable => .unexpected encodingFault
  | .undecodable => .unexpected decodingFault

def unauthorized (message : Text) : ViewFailure :=
  .api (.unauthorized message) rfl

def missing (message : Text) : ViewFailure :=
  .api (.notFound message) rfl

def methodNotAllowed : ViewFailure :=
  .protocol 405 "The method is not allowed for the requested URL." rfl

def bodyTooLong : ViewFailure :=
  .protocol 413 "The data value transmitted exceeds the capacity limit." rfl

def notFound : ViewFailure :=
  .protocol 404 "" rfl

end ViewFailure

namespace View

def fail {α : Type} (failure : ViewFailure) : View α :=
  throw failure

def call {α : Type} (call : Call α) : View α := fun world =>
  match call world with
  | (.ok value, world) => (.ok value, world)
  | (.error failure, world) => (.error (.ofCall failure), world)

/-- A timeout of an integer, rounded; one that rounds beyond all numbers is a fault. -/
def timeoutOfRounded : Binary64 → Except ViewFailure (Option Binary64)
  | .infinite false => .error (.unexpected rangeFault)
  | number => .ok (some number)

def timeoutOf (setting : Setting) : Except ViewFailure (Option Binary64) :=
  if setting.isUnset then .ok none
  else
    match setting with
    | .value (.float seconds) => .ok (some seconds)
    | .value (.bool _) => .ok (some (Binary64.ofInt 1))
    | .value (.int seconds) => timeoutOfRounded (Binary64.ofInt seconds)
    | _ => .error (.unexpected kindFault)

def context (app : App) : View Context := do
  let requestId ← modifyGet RequestId.ensure
  match timeoutOf ((app.settings.find? "HANDLER_TIMEOUT").getD (.value .null)) with
  | .error failure => fail failure
  | .ok timeout =>
      let world ← get
      return Context.withTimeout world.clock timeout (some requestId)

/-- Whether a length is beyond what a setting allows; a setting must be a number, or null for any
length. -/
def isBeyond (length : Nat) : Setting → Except ViewFailure Bool
  | .value .null => .ok false
  | .value (.int limit) => .ok (limit < length)
  | .value (.bool one) => .ok ((if one then 1 else 0) < length)
  | .value (.float limit) =>
      let length := Binary64.ofInt length
      .ok (Binary64.atMost limit length && !Binary64.atMost length limit)
  | _ => .error (.unexpected kindFault)

/-- The octets of a request's body, which may be longer than settings allow; a body without a length
counts as empty. -/
def octets (app : App) (request : Request) : View Octets := do
  match request.length? with
  | none => return []
  | some length =>
      match isBeyond length ((app.settings.find? "MAX_CONTENT_LENGTH").getD (.value .null)) with
      | .error failure => fail failure
      | .ok true => fail .bodyTooLong
      | .ok false => return request.body

/-- The value of a request's body; one that is not JSON, and one that counts as unset, is an empty
object. -/
def body (app : App) (request : Request) : View Json := do
  if !request.isJson then return .object []
  match Json.readOctets app.machine.levels (← octets app request) with
  | .ok value => return if value.isUnset then .object [] else value
  | .error .malformed => return .object []
  | .error .tooDeep => fail (.unexpected depthFault)

def directory (app : App) : View UserDirectory :=
  match app.directory with
  | some directory => return directory
  | none => fail (.unexpected missingFault)

/-- The state of the store: whether it is a key server, and if so, whether that answers. -/
def storeState (app : App) : View String := do
  if !app.hasKeyServer then return "unconfigured"
  let world ← get
  if world.faults.ping then
    set (world.report
      { severity := .error, logger := "account_tokens.factory",
        message := "healthcheck.redis_error", fault := some StoreAccess.connectionFault })
    return "fail"
  return "ok"

def health (app : App) : View Answer := do
  let state ← storeState app
  let healthy := state != "fail"
  match (app.settings.find? "APP_VERSION").getD (.value (.text "dev")) with
  | .raw _ => fail (.unexpected kindFault)
  | .value version =>
      return { status := if healthy then 200 else 503,
               body := .object
                 [("status", .text (if healthy then "ok" else "degraded")), ("redis", .text state),
                  ("version", version)] }

/-- Rotate a refresh token.  The user's current snapshot goes into the new identity token. -/
def tokens (app : App) (request : Request) : View Answer := do
  let token ←
    match loadRotationRequest (← body app request) with
    | .ok token => pure token
    | .error problems => fail (.validation problems)
  let context ← context app
  let claims ← call (app.service.validateRefresh (some context) token)
  let directory ← directory app
  match directory.find? claims.user with
  | none => fail (.missing ("User not found: " ++ claims.user))
  | some user => do
      let pair ← call (app.service.newPair (some context) user claims.token.text)
      return { body := .object [("tokens", .object
        [("idToken", .text pair.identity.signed), ("refreshToken", .text pair.refresh.signed)])] }

def bearer (app : App) (request : Request) : View (Context × UserSnapshot) := do
  let context ← context app
  match request.bearerToken? with
  | none =>
      fail (.unauthorized "Must provide Authorization header with format `Bearer \x7btoken\x7d`")
  | some token =>
      let user ← call (app.service.validateIdentity (some context) token)
      return (context, user)

def signOut (app : App) (request : Request) : View Answer := do
  let (context, user) ← bearer app request
  let _ ← call (app.service.signOut (some context) user.id)
  return { body := .object [("message", .text "the user signed out successfully!")] }

def profile (app : App) (request : Request) : View Answer := do
  let (_, user) ← bearer app request
  return { body := .object [("user", user.dump)] }

def ofEndpoint (app : App) (request : Request) : Endpoint → View Answer
  | .health => health app
  | .tokens => tokens app request
  | .signOut => signOut app request
  | .profile => profile app request
  | .staticFile => fail .notFound

end View

end TokenAuthority.Http
