import TokenAuthority.Failure
import TokenAuthority.Http.Status

/-!
Problem documents.

Whatever goes wrong with a request is answered by one kind of document: status and title, a detail
that is safe to show, the path that was asked for, a code, and the identifier of the request.
Service errors become problems by their category alone, so that faults on this side cannot be told
apart.
-/

namespace TokenAuthority.Http

/-- An error that is shown to clients. -/
structure ApiError where
  message : Text
  status : Int := 400
  code : String := "bad_request"
  /-- More about the error; unset for nothing more. -/
  details : Json := .null

namespace ApiError

/-- Whether the status of an error is registered, so that it has a title. -/
def IsRegistered (error : ApiError) : Prop :=
  (statusPhrase? error.status).isSome = true

instance (error : ApiError) : Decidable error.IsRegistered :=
  inferInstanceAs (Decidable (_ = true))

def unauthorized (message : Text := "Unauthorized") : ApiError :=
  { message, status := 401, code := "unauthorized" }

def notFound (message : Text := "Resource not found") : ApiError :=
  { message, status := 404, code := "not_found" }

/-- What stands for an internal error of the service. -/
def internal : ApiError :=
  { message := "Unexpected error", status := 500, code := "internal_server_error" }

def timedOut : ApiError :=
  { message := "Request timed out", status := 503, code := "service_unavailable" }

def ofService (error : ServiceError) : ApiError :=
  match error.category with
  | .authorization => unauthorized error.message
  | .deadlineExceeded => timedOut
  | .internal => internal
  | .general => { message := error.message }

theorem isRegistered_ofService (error : ServiceError) : (ofService error).IsRegistered := by
  unfold ofService
  cases error.category <;> rfl

end ApiError

structure Problem where
  status : Int
  title : String
  detail : Text
  path : Option String
  code : String
  details : Json
  requestId : String

namespace Problem

/-- The document of an error whose status is registered. -/
def ofError (error : ApiError) (registered : error.IsRegistered) (path : Option String)
    (requestId : String) : Problem where
  status := error.status
  title := (statusPhrase? error.status).get registered
  detail := error.message
  path := path
  code := error.code
  details := error.details
  requestId := requestId

/-- The document of an error; without a title there is none. -/
def ofError? (error : ApiError) (path : Option String) (requestId : String) : Option Problem :=
  if registered : error.IsRegistered then some (ofError error registered path requestId) else none

def toJson (problem : Problem) : Json :=
  let opening : List (Text × Json) :=
    [("type", .text "about:blank"), ("title", .text problem.title),
      ("status", .int problem.status), ("detail", .text problem.detail),
      ("instance", problem.path.elim .null fun path => .text path), ("code", .text problem.code)]
  let details : List (Text × Json) :=
    if problem.details.isUnset then [] else [("details", problem.details)]
  let closing : List (Text × Json) := [("request_id", .text problem.requestId)]
  .object (opening ++ details ++ closing)

end Problem

end TokenAuthority.Http
