import TokenAuthority.Proofs.Http.Presenting
import TokenAuthority.Proofs.Http.Serving

/-!
One identifier for all that is said about a request.

The identifier is chosen when a request comes in, and no view draws another one.  The header of the
response tells it, and so does every report and the problem document, if there is one, whatever it
was that failed.
-/

namespace TokenAuthority

namespace Http

/-- What is dispatched with success is not answered with a problem. -/
theorem not_problem_of_dispatch {app : App} {request : Request} {world after : World} {status : Int}
    {problem : Problem} : dispatch app request world ≠ (.ok (status, .problem problem), after) := by
  intro dispatched
  unfold dispatch at dispatched
  split at dispatched
  · cases dispatched
  · cases dispatched
  · cases dispatched
  · cases dispatched
  · split at dispatched
    · cases dispatched
    · cases dispatched

theorem members_toJson (problem : Problem) :
    problem.toJson.get? "request_id" = some (.text problem.requestId) ∧
      problem.toJson.get? "status" = some (.int problem.status) := by
  unfold Problem.toJson Json.get?
  cases problem.details.isUnset with
  | true => simp [Json.lookup?]
  | false => simp [Json.lookup?]

theorem requestId?_responseTo (request : Request) (requestId : String) (outcome : Outcome) :
    (responseTo request requestId outcome).requestId? = some requestId := by
  have sameName : (Text.lowerAscii RequestId.header == Text.lowerAscii RequestId.header) = true :=
    beq_self_eq_true _
  unfold Response.requestId? responseTo Headers.first?
  rw [List.find?_cons, sameName]
  rfl

variable {app : App} {request : Request} {world after : World} {exchange : Exchange}

/-- A request has one identifier, which the header of its response, its reports and its problem
document tell.  It is the one that the request carries, or else a fresh one.  The last report tells
the status of the response, and so does the problem document. -/
theorem request_identified (served : serve app request world = (exchange, after)) :
    ∃ id, exchange.response.requestId? = some id ∧
      RequestId.Identifies request.headers world.ids world.requestsDrawn id after.requestsDrawn ∧
      ((∀ count, TokenId.isCanonical (world.ids.request count) = true) →
        RequestId.IsIdentifier id) ∧
      (∀ entry ∈ exchange.entries, entry.requestId = .text id) ∧
      (app.level ≤ Log.Severity.info.number →
        exchange.entries.getLast? = some ⟨.text id,
          accessEvent request exchange.response.status
            (elapsed (some world.clock) after.clock)⟩) ∧
      ∀ problem, exchange.response.content = .problem problem →
        problem.toJson.get? "request_id" = some (.text id) ∧
          problem.toJson.get? "status" = some (.int exchange.response.status) := by
  obtain ⟨id, drawn, outcome, left, events, -, identifies, dispatched, keeps, answered⟩ :=
    exists_serve_eq app request world
  rw [served, Prod.mk.injEq] at answered
  obtain ⟨rfl, rfl⟩ := answered
  refine ⟨id, requestId?_responseTo request id outcome, ?_, identifies.isIdentifier, ?_, ?_, ?_⟩
  · have sameDrawn : (endScope left).requestsDrawn = drawn := keeps.2.2
    rw [sameDrawn]
    exact identifies
  · intro entry membership
    obtain ⟨event, -, rfl⟩ := List.mem_map.mp membership
    rfl
  · intro wanted
    have accessWanted (status : Int) (took : Json) :
        (accessEvent request status took).isWanted app.level = true := decide_eq_true wanted
    simp only [List.filter_append, List.filter_cons, accessWanted, if_true, List.filter_nil,
      List.map_append, List.map_cons, List.map_nil, List.getLast?_append, List.getLast?_singleton,
      Option.some_or]
    rfl
  · intro problem isProblem
    cases outcome with
    | ok answer =>
        obtain ⟨status, content⟩ := answer
        cases isProblem
        exact absurd dispatched not_problem_of_dispatch
    | error failure =>
        cases isProblem
        exact members_toJson _

/-! ### A sample -/

/-- A request for nothing that is there.  Its own header is not well-formed, and the other is. -/
def strayRequest : Request where
  method := "GET"
  target := "/nowhere"
  headers := [("X-Request-ID", "two words"), ("X-Correlation-ID", " trace:7 ")]

theorem isCanonical_counting (count : Nat) :
    TokenId.isCanonical (IdSource.counting.request count) = true := by
  let value := 0x1000_0000_0000_4000_8000_0000_0000_0000 + (count + 1) % 0x1_0000_0000_0000
  have small : value < tokenIdLimit := by
    unfold tokenIdLimit
    omega
  have isText : (IdSource.counting.request count : Text) = TokenId.text ⟨value, small⟩ := by
    rw [TokenId.text, ← Text.ofString_ofList]
    rfl
  rw [isText]
  exact TokenId.isCanonical_text _

theorem identifies_strayRequest {id : String} {drawn : Nat}
    (identifies : RequestId.Identifies strayRequest.headers World.sample.ids
      World.sample.requestsDrawn id drawn) : id = "trace:7" := by
  have notOwn : ((strayRequest.headers.find? "X-Request-ID").map Text.trim).filter
      RequestId.isWellFormed = none := by
    decide +kernel
  have isCorrelated : ((strayRequest.headers.find? "X-Correlation-ID").map Text.trim).filter
      RequestId.isWellFormed = some "trace:7" := by
    decide +kernel
  cases identifies with
  | own carried =>
      rw [RequestId.carries_iff, notOwn] at carried
      cases carried
  | correlated _ carried =>
      rw [RequestId.carries_iff, isCorrelated] at carried
      exact (Option.some.inj carried).symm
  | fresh _ notCorrelated =>
      exact absurd (RequestId.carries_iff.mpr isCorrelated) (notCorrelated _)

theorem answered_strayRequest {exchange : Exchange} {after : World}
    (served : serve sampleApp strayRequest World.sample = (exchange, after)) :
    ∃ problem, exchange.response.content = .problem problem := by
  obtain ⟨id, drawn, outcome, left, dispatched, answered, -⟩ := of_serve_eq served
  have astray : route sampleApp.mount strayRequest.path strayRequest.verb = .notFound := by
    decide +kernel
  unfold dispatch at dispatched
  rw [astray] at dispatched
  cases dispatched
  rw [answered]
  exact ⟨_, rfl⟩

theorem strayRequest_identified :
    ∃ exchange after, serve sampleApp strayRequest World.sample = (exchange, after) ∧
      exchange.response.requestId? = some "trace:7" ∧ RequestId.IsIdentifier "trace:7" ∧
      (∀ entry ∈ exchange.entries, entry.requestId = .text "trace:7") ∧
      exchange.entries.getLast? = some ⟨.text "trace:7",
        accessEvent strayRequest exchange.response.status
          (elapsed (some World.sample.clock) after.clock)⟩ ∧
      ∃ problem, exchange.response.content = .problem problem ∧
        problem.toJson.get? "request_id" = some (.text "trace:7") ∧
        problem.toJson.get? "status" = some (.int exchange.response.status) := by
  cases served : serve sampleApp strayRequest World.sample with
  | mk exchange after =>
      obtain ⟨id, told, identifies, wellFormed, entries, last, problems⟩ :=
        request_identified served
      obtain rfl := identifies_strayRequest identifies
      obtain ⟨problem, isProblem⟩ := answered_strayRequest served
      exact ⟨exchange, after, rfl, told, wellFormed isCanonical_counting, entries,
        last (Int.le_refl _), problem, isProblem, problems problem isProblem⟩

end Http

end TokenAuthority
