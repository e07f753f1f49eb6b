import TokenAuthority.Http.Handler

/-!
Exchanges: a request, its response and the reports about it.

While a request is served its scope is open.  Every part of the exchange that needs the identifier
of the request asks for it there: the views, the handlers of failures, the response, and the reports
when they are written.  The last report of an exchange tells its status and the time that it took.
-/

namespace TokenAuthority.Http

/-- What a response carries. -/
inductive Content where
  | value (body : Json)
  | problem (problem : Problem)
  /-- Nothing but the methods that are allowed. -/
  | methods (allowed : List String)
  | redirect (url : String)

structure Response where
  status : Int
  content : Content
  /-- Whether the content itself is withheld, since only the headers were asked for. -/
  headersOnly : Bool
  /-- The headers that do not come from the content. -/
  headers : Headers := []

namespace Response

/-- The identifier of the request, as the response tells it. -/
def requestId? (response : Response) : Option String :=
  response.headers.first? RequestId.header

def mediaType (response : Response) : String :=
  match response.content with
  | .value _ => "application/json"
  | .problem _ => "application/problem+json"
  | .methods _ => "text/html"
  | .redirect _ => "text/html"

def escapeMarkup : Char → List Char
  | '&' => "&amp;".toList
  | '<' => "&lt;".toList
  | '>' => "&gt;".toList
  | '"' => "&#34;".toList
  | '\'' => "&#39;".toList
  | character => [character]

def redirectDocument (url : String) : String :=
  let url := String.ofList (url.toList.flatMap escapeMarkup)
  "<!doctype html>\n<html lang=en>\n<title>Redirecting...</title>\n<h1>Redirecting...</h1>\n" ++
    "<p>You should be redirected automatically to the target URL: <a href=\"" ++ url ++ "\">" ++
    url ++ "</a>. If not, click the link.\n"

def body? (response : Response) : Option Json :=
  if response.headersOnly then none
  else
    match response.content with
    | .value body => some body
    | .problem problem => some problem.toJson
    | .methods _ => none
    | .redirect url => some (.text (redirectDocument url))

end Response

/-- A report with the identifier that it is stamped with. -/
structure Entry where
  requestId : Json
  event : Log.Event

structure Exchange where
  response : Response
  entries : List Entry

/-- What answers a request: the content of a response with its status. -/
abbrev Outcome := Except ViewFailure (Int × Content)

def dispatch (app : App) (request : Request) : StateM World Outcome := fun world =>
  match route app.mount request.path request.verb with
  | .notFound => (.error .notFound, world)
  | .methodNotAllowed => (.error .methodNotAllowed, world)
  | .methodsOf endpoint => (.ok (200, .methods endpoint.methods), world)
  | .redirect path => (.ok (308, .redirect (request.url.withPath path)), world)
  | .to endpoint =>
      match View.ofEndpoint app request endpoint world with
      | (.ok answer, world) => (.ok (answer.status, .value answer.body), world)
      | (.error failure, world) => (.error failure, world)

def respond (request : Request) (outcome : Outcome) : StateM World Response := do
  let headersOnly := request.method == "HEAD"
  match outcome with
  | .ok (status, content) => return { status, content, headersOnly }
  | .error failure => do
      let handled ← failure.handle request.path
      return { status := handled.status, content := .problem handled.problem, headersOnly }

/-- What is done before a request is dispatched. -/
def prepare : StateM World Unit := do
  let _ ← modifyGet RequestId.ensure
  modify fun world =>
    { world with scope := world.scope.map fun scope => { scope with started := some world.clock } }

/-- The milliseconds that a request took; a ticking clock that stood at zero tells none. -/
def elapsed (started : Option Clock) (finished : Clock) : Json :=
  match started with
  | none => .null
  | some started =>
      if started.ticks = 0 then .null else .float (Binary64.ofInt (finished.ticks - started.ticks))

def accessEvent (request : Request) (status : Int) (took : Json) : Log.Event :=
  { severity := .info, logger := "account_tokens.access", message := "request.completed",
    subject := [("method", .text request.verb), ("path", .text request.path),
      ("status", .int status), ("elapsed_ms", took)] }

/-- A report that is to be written, with the identifier that was given to it, if any. -/
abbrev Draft := Json × Log.Event

/-- What is done with a response before it is sent: it tells the identifier of the request, and the
exchange is reported. -/
def complete (request : Request) (response : Response) : StateM World (Response × Draft) := do
  let requestId ← modifyGet RequestId.ensure
  let headers := response.headers.setDefault RequestId.header requestId
  let world ← get
  let took := elapsed (world.scope.bind RequestScope.started) world.clock
  let requestId ← modifyGet RequestId.ensure
  return ({ response with headers }, (.text requestId, accessEvent request response.status took))

/-- Write reports, each with the identifier that it is stamped with. -/
def writeAll : List Draft → StateM World (List Entry)
  | [] => return []
  | (own, event) :: rest => do
      let requestId ← modifyGet (RequestId.stamp own)
      let entries ← writeAll rest
      return ⟨requestId, event⟩ :: entries

/-- Answer a request whose scope is open.  Of the reports only the last has an identifier given to
it. -/
def answer (app : App) (request : Request) : StateM World Exchange := do
  prepare
  let outcome ← dispatch app request
  let response ← respond request outcome
  let (response, last) ← complete request response
  let world ← get
  let drafts := world.reports.reverse.map (fun event => (Json.null, event)) ++ [last]
  let entries ← writeAll (drafts.filter fun draft => draft.2.isWanted app.level)
  return { response, entries }

/-- Open a scope for a request.  The world then holds no reports. -/
def beginScope (request : Request) (world : World) : World :=
  { world with scope := some { headers := request.headers }, reports := [] }

/-- Close the scope of a request.  Its reports belong to the exchange. -/
def endScope (world : World) : World :=
  { world with scope := none, reports := [] }

/-- Serve a request in a scope of its own. -/
def serve (app : App) (request : Request) (world : World) : Exchange × World :=
  let (exchange, world) := answer app request (beginScope request world)
  (exchange, endScope world)

end TokenAuthority.Http
