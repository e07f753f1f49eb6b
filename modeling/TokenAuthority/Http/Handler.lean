import TokenAuthority.Http.View

/-!
Handlers of failures.

A failure is handled by its kind.  Its handler makes a document of it for the request that is
served, reports it, and tells the status of the response.
-/

namespace TokenAuthority.Http

/-- What a handler answers with: a document, and the status of the response. -/
structure Handled where
  problem : Problem
  status : Int

abbrev Handler := StateM World Handled

def errorLogger : String := "account_tokens.core.errors"

namespace Handler

/-- The document of an error for the request that is served. -/
def document (error : ApiError) (registered : error.IsRegistered) (path : String) :
    StateM World Problem := do
  let requestId ← modifyGet RequestId.ensure
  return Problem.ofError error registered (some path) requestId

def report (severity : Log.Severity) (message : Text) (fault : Option String := none) :
    StateM World Unit :=
  modify (World.report · { severity, logger := errorLogger, message, fault })

/-- Answer with the document of an error and with a status.  The report of it may tell the
identifier of the request. -/
def answer (error : ApiError) (registered : error.IsRegistered) (status : Int)
    (severity : Log.Severity) (message : (requestId : String) → Text)
    (fault : Option String := none) (path : String) : Handler := do
  let problem ← document error registered path
  report severity (message problem.requestId) fault
  return ⟨problem, status⟩

/-- The severity of a failure; those with the status of a fault on this side are errors. -/
def severityOf (status : Int) : Log.Severity :=
  if 500 ≤ status then .error else .warning

def ofApi (error : ApiError) (registered : error.IsRegistered) : (path : String) → Handler :=
  answer error registered error.status (severityOf error.status) fun requestId =>
    "APIError: code=" ++ error.code ++ " status=" ++ toString error.status ++ " msg=" ++
      error.message ++ " request_id=" ++ requestId

/-- A service error is translated; what is shown as a fault on this side is reported before. -/
def ofService (error : ServiceError) (path : String) : Handler := do
  let translated := ApiError.ofService error
  if 500 ≤ translated.status then
    let requestId ← modifyGet RequestId.ensure
    report .error ("ServiceError: " ++ error.message ++ " request_id=" ++ requestId)
      (some error.category.faultName)
  ofApi translated (ApiError.isRegistered_ofService error) path

def ofValidation (problems : FormProblems) : (path : String) → Handler :=
  answer
    { message := "Validation failed", status := 422, code := "validation_error",
      details := .object [("errors", problems.toJson)] } rfl 422 .warning
    fun requestId => "ValidationError: request_id=" ++ requestId

/-- What is said of a failure of the protocol; a route that is not found is named. -/
def protocolMessage (status : Int) (description path : String) : String :=
  if status = 404 then "Route '" ++ path ++ "' not found"
  else Text.trim (if description.isEmpty then codeWords (statusCode status) else description)

def ofProtocol (status : Int) (description : String)
    (registered : (statusPhrase? status).isSome = true) (path : String) : Handler :=
  let code := statusCode status
  let message := protocolMessage status description path
  answer { message, status, code } registered status (severityOf status)
    (fun requestId => "HTTPException: code=" ++ code ++ " status=" ++ toString status ++
      " detail=" ++ message ++ " request_id=" ++ requestId) none path

/-- Whatever nothing else accounts for.  Its kind is reported, and nothing of it is shown. -/
def ofUnexpected (fault : String) : (path : String) → Handler :=
  answer { message := "Unexpected error", status := 500, code := "internal_server_error" } rfl 500
    .error (fun requestId => "Unhandled exception: request_id=" ++ requestId) (some fault)

end Handler

def ViewFailure.handle (path : String) : ViewFailure → Handler
  | .api error registered => Handler.ofApi error registered path
  | .service error => Handler.ofService error path
  | .validation problems => Handler.ofValidation problems path
  | .protocol status description registered =>
      Handler.ofProtocol status description registered path
  | .unexpected fault => Handler.ofUnexpected fault path

end TokenAuthority.Http
