import TokenAuthority.Proofs.Http.View
import TokenAuthority.Proofs.Service.Finality

/-!
Serving a request.

A request is entered under an identifier, which is chosen once, and dispatched to its view.  Nothing
that is done then changes what it is served under.  So whoever asks for the identifier is told the
same: the view, the handler of a failure, the response and the reports.  Every failure is answered
with a status of refusal.
-/

namespace TokenAuthority

namespace Http

/-! ### Dispatching -/

/-- A request that leads to an endpoint is dispatched to its view. -/
theorem dispatch_of_route {app : App} {request : Request} {endpoint : Endpoint}
    (leads : route app.mount request.path request.verb = .to endpoint)
    {world after : World} {outcome : Except ViewFailure Answer}
    (ran : View.runIn (View.ofEndpoint app request endpoint) world = (outcome, after)) :
    dispatch app request world =
      (outcome.map fun answer => (answer.status, .value answer.body), after) := by
  have isRun : View.ofEndpoint app request endpoint world = (outcome, after) := ran
  unfold dispatch
  simp only [leads, isRun]
  cases outcome <;> rfl

/-- Any other request leaves the world alone. -/
theorem dispatch_of_not_route {app : App} {request : Request}
    (leadsNowhere : ∀ endpoint, route app.mount request.path request.verb ≠ .to endpoint)
    {world after : World} {outcome : Outcome}
    (dispatched : dispatch app request world = (outcome, after)) : after = world := by
  unfold dispatch at dispatched
  split at dispatched
  · exact (Prod.mk.inj dispatched).2.symm
  · exact (Prod.mk.inj dispatched).2.symm
  · exact (Prod.mk.inj dispatched).2.symm
  · exact (Prod.mk.inj dispatched).2.symm
  · next endpoint leads => exact absurd leads (leadsNowhere endpoint)

/-! ### What views keep -/

section Keeping

variable {relation : World → World → Prop} (kept : World.IsKept relation)
  (disturbs : Call.Keeps relation (modify StoreAccess.disturb)) (app : App) (request : Request)
  {requestId : String} {world : World} (assigned : world.Serves requestId)

include kept assigned

theorem View.keeps_signOut :
    relation world (View.runIn (View.signOut app request) world).2 := by
  obtain ⟨reports, ran⟩ := View.runIn_signOut app request assigned
  have reported := kept.withReports world reports
  rw [ran]
  cases View.callerOf app request requestId world with
  | error failure => exact reported
  | ok caller =>
      obtain ⟨context, user⟩ := caller
      cases left : Call.runIn (app.service.signOut (some context) user.id)
          (world.withReports reports) with
      | mk outcome after =>
          have called := app.service.keeps_signOut kept (some context) user.id
            (world.withReports reports)
          rw [left] at called
          simp only [View.runIn_leave left]
          exact kept.trans reported called

include disturbs

theorem View.keeps_tokens :
    relation world (View.runIn (View.tokens app request) world).2 := by
  obtain ⟨reports, ran⟩ := View.runIn_tokens app request assigned
  have reported := kept.withReports world reports
  rw [ran]
  cases View.rotationOf app request requestId world with
  | error failure => exact reported
  | ok asked =>
      obtain ⟨context, claims, user⟩ := asked
      cases issued : Call.runIn (app.service.newPair (some context) user claims.token.text)
          (world.withReports reports) with
      | mk outcome after =>
          have called := app.service.keeps_newPair kept disturbs (some context) user
            claims.token.text (world.withReports reports)
          rw [issued] at called
          simp only [View.runIn_exchange issued]
          exact kept.trans reported called

/-- A view keeps what the calls of the service keep. -/
theorem View.keeps_ofEndpoint (endpoint : Endpoint) :
    relation world (View.runIn (View.ofEndpoint app request endpoint) world).2 := by
  cases endpoint with
  | tokens => exact View.keeps_tokens kept disturbs app request assigned
  | signOut => exact View.keeps_signOut kept app request assigned
  | health =>
      obtain ⟨outcome, reports, ran⟩ := View.runIn_health app world
      show relation world (View.runIn (View.health app) world).2
      rw [ran]
      exact kept.withReports world reports
  | profile =>
      obtain ⟨reports, ran⟩ := View.runIn_profile app request assigned
      show relation world (View.runIn (View.profile app request) world).2
      rw [ran]
      exact kept.withReports world reports
  | staticFile => exact kept.refl world

theorem keeps_dispatch : relation world (dispatch app request world).2 := by
  by_cases leads : ∃ endpoint, route app.mount request.path request.verb = .to endpoint
  · obtain ⟨endpoint, leads⟩ := leads
    have acted := View.keeps_ofEndpoint kept disturbs app request assigned endpoint
    cases ran : View.runIn (View.ofEndpoint app request endpoint) world with
    | mk outcome after =>
        rw [ran] at acted
        rw [dispatch_of_route leads ran]
        exact acted
  · cases dispatched : dispatch app request world with
    | mk outcome after =>
        have same : after = world :=
          dispatch_of_not_route (fun endpoint isTo => leads ⟨endpoint, isTo⟩) dispatched
        rw [same]
        exact kept.refl world

end Keeping

/-- Whether the identifiers of requests are as they were: what is served has the same, and none was
drawn. -/
def KeepsScope (before after : World) : Prop :=
  after.scope = before.scope ∧ after.ids = before.ids ∧ after.requestsDrawn = before.requestsDrawn

theorem isKept_keepsScope : World.IsKept KeepsScope where
  trans left right :=
    ⟨right.1.trans left.1, right.2.1.trans left.2.1, right.2.2.trans left.2.2⟩
  same _ _ _ _ := ⟨rfl, rfl, rfl⟩

theorem keepsScope_disturb : Call.Keeps KeepsScope (modify StoreAccess.disturb) :=
  fun _ => ⟨rfl, rfl, rfl⟩

theorem KeepsScope.serves {before after : World} (keeps : KeepsScope before after)
    {requestId : String} (assigned : before.Serves requestId) : after.Serves requestId := by
  unfold World.Serves
  rw [keeps.1]
  exact assigned

/-! ### Handlers of failures -/

namespace ViewFailure

/-- The error that a failure is shown as. -/
def shownAs (path : String) : ViewFailure → ApiError
  | .api error _ => error
  | .service error => .ofService error
  | .validation problems =>
      { message := "Validation failed", status := 422, code := "validation_error",
        details := .object [("errors", problems.toJson)] }
  | .protocol status description _ =>
      { message := Handler.protocolMessage status description path, status,
        code := statusCode status }
  | .unexpected _ =>
      { message := "Unexpected error", status := 500, code := "internal_server_error" }

theorem isRegistered_shownAs (failure : ViewFailure) (path : String) :
    (failure.shownAs path).IsRegistered := by
  cases failure with
  | api error registered => exact registered
  | service error => exact ApiError.isRegistered_ofService error
  | validation problems => rfl
  | protocol status description registered => exact registered
  | unexpected fault => rfl

/-- What is not accounted for is shown as an internal error of the service is. -/
theorem shownAs_unexpected (fault path : String) :
    (unexpected fault).shownAs path = .internal := rfl

/-- The document of a failure. -/
def document (failure : ViewFailure) (path requestId : String) : Problem :=
  .ofError (failure.shownAs path) (failure.isRegistered_shownAs path) (some path) requestId

end ViewFailure

namespace Handler

variable {world : World} {requestId : String} (assigned : world.Serves requestId) (path : String)

include assigned

theorem document_of_serves (error : ApiError) (registered : error.IsRegistered) :
    document error registered path world =
      (Problem.ofError error registered (some path) requestId, world) := by
  have asked : document error registered path world =
      (Problem.ofError error registered (some path) (RequestId.ensure world).1,
        (RequestId.ensure world).2) := rfl
  rw [asked, RequestId.ensure_of_serves assigned]

theorem answer_of_serves (error : ApiError) (registered : error.IsRegistered) (status : Int)
    (severity : Log.Severity) (message : String → Text) (fault : Option String) :
    ∃ reports, answer error registered status severity message fault path world =
      (⟨Problem.ofError error registered (some path) requestId, status⟩,
        world.withReports reports) := by
  have ran : answer error registered status severity message fault path world =
      (⟨(document error registered path world).1, status⟩,
        ((document error registered path world).2).report _) := rfl
  rw [ran, document_of_serves assigned path error registered]
  exact ⟨_, rfl⟩

theorem ofService_of_serves (error : ServiceError) :
    ∃ reports, ofService error path world =
      (⟨Problem.ofError (.ofService error) (ApiError.isRegistered_ofService error) (some path)
        requestId, (ApiError.ofService error).status⟩, world.withReports reports) := by
  by_cases grave : 500 ≤ (ApiError.ofService error).status
  · have asked : ofService error path world =
        ofApi (.ofService error) (ApiError.isRegistered_ofService error) path
          ((RequestId.ensure world).2.report
            { severity := .error, logger := errorLogger,
              message := "ServiceError: " ++ error.message ++ " request_id=" ++
                (RequestId.ensure world).1,
              fault := some error.category.faultName }) := by
      unfold ofService
      simp only [grave, if_true]
      rfl
    rw [asked, RequestId.ensure_of_serves assigned]
    exact answer_of_serves (assigned.withReports _) path _ _ _ _ _ _
  · have asked : ofService error path world =
        ofApi (.ofService error) (ApiError.isRegistered_ofService error) path world := by
      unfold ofService
      simp only [grave, if_false]
    rw [asked]
    exact answer_of_serves assigned path _ _ _ _ _ _

end Handler

/-- A handler answers with the document of its failure and with the status that this tells. -/
theorem ViewFailure.handle_of_serves (failure : ViewFailure) {world : World} {requestId : String}
    (assigned : world.Serves requestId) (path : String) :
    ∃ reports, failure.handle path world =
      (⟨failure.document path requestId, (failure.shownAs path).status⟩,
        world.withReports reports) := by
  cases failure with
  | service error => exact Handler.ofService_of_serves assigned path error
  | api error registered =>
      simp only [handle, Handler.ofApi]
      exact Handler.answer_of_serves assigned path error registered _ _ _ _
  | validation problems =>
      simp only [handle, Handler.ofValidation]
      exact Handler.answer_of_serves assigned path _ _ _ _ _ _
  | protocol status description registered =>
      simp only [handle, Handler.ofProtocol]
      exact Handler.answer_of_serves assigned path _ _ _ _ _ _
  | unexpected fault =>
      simp only [handle, Handler.ofUnexpected]
      exact Handler.answer_of_serves assigned path _ _ _ _ _ _

/-! ### Exchanges -/

/-- The world in which a request is dispatched: without reports, and with an identifier that was
drawn or not. -/
def entered (request : Request) (world : World) (requestId : String) (drawn : Nat) : World :=
  { world with
    reports := [], requestsDrawn := drawn,
    scope := some { headers := request.headers, requestId := some requestId,
                    started := some world.clock } }

@[simp]
theorem clock_entered (request : Request) (world : World) (requestId : String) (drawn : Nat) :
    (entered request world requestId drawn).clock = world.clock := rfl

theorem serves_entered (request : Request) (world : World) (requestId : String) (drawn : Nat) :
    (entered request world requestId drawn).Serves requestId := ⟨_, rfl, rfl⟩

/-- The response to what a request comes to. -/
def responseTo (request : Request) (requestId : String) (outcome : Outcome) : Response where
  status :=
    match outcome with
    | .ok (status, _) => status
    | .error failure => (failure.shownAs request.path).status
  content :=
    match outcome with
    | .ok (_, content) => content
    | .error failure => .problem (failure.document request.path requestId)
  headersOnly := request.method == "HEAD"
  headers := [(RequestId.header, requestId)]

theorem exists_prepare_eq (request : Request) (world : World) :
    ∃ id drawn, prepare (beginScope request world) = ((), entered request world id drawn) ∧
      RequestId.Identifies request.headers world.ids world.requestsDrawn id drawn := by
  have served : (beginScope request world).scope = some { headers := request.headers } := rfl
  obtain ⟨id, drawn, asked, identifies⟩ := RequestId.exists_ensure_eq served rfl
  refine ⟨id, drawn, ?_, identifies⟩
  have ran : prepare (beginScope request world) =
      ((), { (RequestId.ensure (beginScope request world)).2 with
        scope := (RequestId.ensure (beginScope request world)).2.scope.map fun scope =>
          { scope with started := some (RequestId.ensure (beginScope request world)).2.clock } }) :=
    rfl
  rw [ran, asked]
  rfl

theorem exists_respond_eq (request : Request) (outcome : Outcome) {world : World}
    {requestId : String} (assigned : world.Serves requestId) :
    ∃ reports, respond request outcome world =
      ({ responseTo request requestId outcome with headers := [] },
        world.withReports reports) := by
  cases outcome with
  | ok answer => exact ⟨world.reports, rfl⟩
  | error failure =>
      obtain ⟨reports, handled⟩ := failure.handle_of_serves assigned request.path
      have ran : respond request (.error failure) world =
          ({ status := (failure.handle request.path world).1.status,
             content := .problem (failure.handle request.path world).1.problem,
             headersOnly := request.method == "HEAD" },
            (failure.handle request.path world).2) := rfl
      rw [ran, handled]
      exact ⟨reports, rfl⟩

theorem complete_of_serves (request : Request) (response : Response) {world : World}
    {requestId : String} (assigned : world.Serves requestId) :
    complete request response world =
      (({ response with headers := response.headers.setDefault RequestId.header requestId },
        (.text requestId, accessEvent request response.status
          (elapsed (world.scope.bind RequestScope.started) world.clock))), world) := by
  have asked := RequestId.ensure_of_serves assigned
  have ran : complete request response world =
      (({ response with
            headers := response.headers.setDefault RequestId.header (RequestId.ensure world).1 },
        (.text (RequestId.ensure (RequestId.ensure world).2).1,
          accessEvent request response.status
            (elapsed ((RequestId.ensure world).2.scope.bind RequestScope.started)
              (RequestId.ensure world).2.clock))),
        (RequestId.ensure (RequestId.ensure world).2).2) := rfl
  rw [ran]
  simp only [asked]

theorem RequestId.stamp_text {world : World} {requestId : String}
    (assigned : world.Serves requestId) :
    RequestId.stamp (.text requestId) world = (.text requestId, world) := by
  cases unset : (Json.text requestId).isUnset with
  | true => exact RequestId.stamp_of_serves assigned unset
  | false =>
      unfold RequestId.stamp
      rw [unset]
      rfl

/-- Reports that bear no identifier, or that of the request, are written with that of the
request. -/
theorem writeAll_of_serves {world : World} {requestId : String} (assigned : world.Serves requestId)
    (drafts : List Draft) (plain : ∀ draft ∈ drafts, draft.1 = .null ∨ draft.1 = .text requestId) :
    writeAll drafts world = (drafts.map fun draft => ⟨.text requestId, draft.2⟩, world) := by
  induction drafts with
  | nil => rfl
  | cons draft rest inductionHypothesis =>
      obtain ⟨own, event⟩ := draft
      have stamped : RequestId.stamp own world = (.text requestId, world) := by
        rcases plain _ List.mem_cons_self with rfl | rfl
        · exact RequestId.stamp_of_serves assigned rfl
        · exact RequestId.stamp_text assigned
      have others := inductionHypothesis fun draft inRest =>
        plain draft (List.mem_cons_of_mem _ inRest)
      have ran : writeAll ((own, event) :: rest) world =
          (⟨(RequestId.stamp own world).1, event⟩ ::
            (writeAll rest (RequestId.stamp own world).2).1,
            (writeAll rest (RequestId.stamp own world).2).2) := rfl
      rw [ran, stamped, others]
      rfl

theorem writeAll_drafts {world : World} {requestId : String} (assigned : world.Serves requestId)
    (events : List Log.Event) (last : Log.Event) (level : Int) :
    writeAll ((events.map (fun event => (Json.null, event)) ++ [(Json.text requestId, last)]).filter
        fun draft => draft.2.isWanted level) world =
      (((events ++ [last]).filter fun event => event.isWanted level).map
        fun event => ⟨.text requestId, event⟩, world) := by
  rw [writeAll_of_serves assigned]
  · by_cases wanted : last.isWanted level = true
    · simp [List.filter_map, Function.comp_def, wanted]
    · simp [List.filter_map, Function.comp_def, wanted]
  · intro draft membership
    rcases List.mem_append.mp (List.mem_filter.mp membership).1 with plain | isLast
    · obtain ⟨event, -, rfl⟩ := List.mem_map.mp plain
      exact .inl rfl
    · rw [List.mem_singleton.mp isLast]
      exact .inr rfl

theorem answer_of_steps {app : App} {request : Request}
    {world prepared acted told ended last : World}
    {outcome : Outcome} {response completed : Response} {draft : Draft} {entries : List Entry}
    (prepares : prepare world = ((), prepared))
    (dispatches : dispatch app request prepared = (outcome, acted))
    (responds : respond request outcome acted = (response, told))
    (completes : complete request response told = ((completed, draft), ended))
    (writes : writeAll ((ended.reports.reverse.map (fun event => (Json.null, event)) ++
      [draft]).filter fun draft => draft.2.isWanted app.level) ended = (entries, last)) :
    answer app request world = (⟨completed, entries⟩, last) := by
  have got : (get : StateM World World) ended = (ended, ended) := rfl
  unfold answer
  show StateT.bind _ _ world = _
  simp only [StateT.bind, bind, prepares, dispatches, responds, completes, got, writes]
  rfl

/-- A request is dispatched under its identifier, and is answered with what that comes to.  The
reports about it all bear the identifier. -/
theorem exists_serve_eq (app : App) (request : Request) (world : World) :
    ∃ id drawn outcome left events,
      prepare (beginScope request world) = ((), entered request world id drawn) ∧
        RequestId.Identifies request.headers world.ids world.requestsDrawn id drawn ∧
        dispatch app request (entered request world id drawn) = (outcome, left) ∧
        KeepsScope (entered request world id drawn) left ∧
        serve app request world =
          ({ response := responseTo request id outcome
             entries :=
              ((events ++ [accessEvent request (responseTo request id outcome).status
                (elapsed (some world.clock) left.clock)]).filter
                  fun event => event.isWanted app.level).map fun event => ⟨.text id, event⟩ },
            endScope left) := by
  obtain ⟨id, drawn, prepared, identifies⟩ := exists_prepare_eq request world
  have keeps := keeps_dispatch isKept_keepsScope keepsScope_disturb app request
    (serves_entered request world id drawn)
  cases dispatched : dispatch app request (entered request world id drawn) with
  | mk outcome left =>
      rw [dispatched] at keeps
      have assigned := keeps.serves (serves_entered request world id drawn)
      obtain ⟨reports, responded⟩ := exists_respond_eq request outcome assigned
      have told := assigned.withReports reports
      have completed := complete_of_serves request
        { responseTo request id outcome with headers := [] } told
      have written := writeAll_drafts told reports.reverse
        (accessEvent request (responseTo request id outcome).status
          (elapsed (some world.clock) left.clock)) app.level
      have started : left.scope.bind RequestScope.started = some world.clock := by
        rw [keeps.1]
        rfl
      rw [World.clock_withReports] at completed
      have sameScope : (left.withReports reports).scope = left.scope := rfl
      rw [sameScope, started] at completed
      have answered := answer_of_steps prepared dispatched responded completed written
      refine ⟨id, drawn, outcome, left, reports.reverse, prepared, identifies, dispatched, keeps,
        ?_⟩
      unfold serve
      rw [answered]
      rfl

theorem of_serve_eq {app : App} {request : Request} {world after : World} {exchange : Exchange}
    (served : serve app request world = (exchange, after)) :
    ∃ requestId drawn outcome left,
      dispatch app request (entered request world requestId drawn) = (outcome, left) ∧
        exchange.response = responseTo request requestId outcome ∧ after = endScope left := by
  obtain ⟨requestId, drawn, outcome, left, events, -, -, dispatched, -, answered⟩ :=
    exists_serve_eq app request world
  rw [served, Prod.mk.injEq] at answered
  obtain ⟨rfl, rfl⟩ := answered
  exact ⟨requestId, drawn, outcome, left, dispatched, rfl, rfl⟩

/-! ### Statuses of failures -/

namespace ViewFailure

/-- Whether a failure is shown with a status of refusal. -/
def IsRefusal (failure : ViewFailure) : Prop :=
  ∀ path, 400 ≤ (failure.shownAs path).status

theorem isRefusal_unexpected (fault : String) : (unexpected fault).IsRefusal :=
  fun _ => show (400 : Int) ≤ 500 by decide

theorem isRefusal_validation (problems : FormProblems) : (validation problems).IsRefusal :=
  fun _ => show (400 : Int) ≤ 422 by decide

theorem isRefusal_ofCall (failure : Failure) : (ofCall failure).IsRefusal := by
  cases failure with
  | service error =>
      have refused : 400 ≤ (ApiError.ofService error).status := by
        unfold ApiError.ofService
        cases error.category with
        | authorization => exact show (400 : Int) ≤ 401 by decide
        | deadlineExceeded => exact show (400 : Int) ≤ 503 by decide
        | internal => exact show (400 : Int) ≤ 500 by decide
        | general => exact Int.le_refl 400
      exact fun _ => refused
  | dateOutOfRange => exact isRefusal_unexpected _
  | unencodable => exact isRefusal_unexpected _
  | undecodable => exact isRefusal_unexpected _
  | keyPart error => exact isRefusal_unexpected _

end ViewFailure

/-- A refusal is not answered with success. -/
theorem status_responseTo_ne {failure : ViewFailure} (refusal : failure.IsRefusal)
    (request : Request)
    (requestId : String) : (responseTo request requestId (.error failure)).status ≠ 200 := by
  have shown : (responseTo request requestId (.error failure)).status =
      (failure.shownAs request.path).status := rfl
  have atLeast := refusal request.path
  omega

namespace View

variable {app : App} {request : Request} {requestId : String} {world : World}
  {failure : ViewFailure}

/-- The octets of a body cannot be had for its length, or for a limit that is no number. -/
theorem of_octetsOf_eq_error (failed : octetsOf app request = .error failure) :
    failure = .bodyTooLong ∨ ∃ fault, failure = .unexpected fault := by
  unfold octetsOf at failed
  split at failed
  · cases failed
  · split at failed
    · next beyond =>
        cases failed
        unfold isBeyond at beyond
        split at beyond <;> cases beyond
        exact .inr ⟨_, rfl⟩
    · cases failed
      exact .inl rfl
    · cases failed

theorem of_contentOf_eq_error (failed : contentOf app request = .error failure) :
    failure = .bodyTooLong ∨ ∃ fault, failure = .unexpected fault := by
  unfold contentOf at failed
  split at failed
  · cases failed
  · cases found : octetsOf app request with
    | error earlier =>
        rw [found] at failed
        cases failed
        exact of_octetsOf_eq_error found
    | ok octets =>
        rw [found] at failed
        unfold Except.bind valueOf at failed
        simp only at failed
        split at failed <;> cases failed
        exact .inr ⟨_, rfl⟩

theorem isRefusal_of_contentOf (failed : contentOf app request = .error failure) :
    failure.IsRefusal := by
  rcases of_contentOf_eq_error failed with rfl | ⟨fault, rfl⟩
  · exact fun _ => show (400 : Int) ≤ 413 by decide
  · exact ViewFailure.isRefusal_unexpected fault

theorem isRefusal_of_timeoutOfRounded {number : Binary64}
    (failed : timeoutOfRounded number = .error failure) : failure.IsRefusal := by
  unfold timeoutOfRounded at failed
  split at failed
  · cases failed
    exact ViewFailure.isRefusal_unexpected _
  · cases failed

theorem isRefusal_of_timeoutOf {setting : Setting} (failed : timeoutOf setting = .error failure) :
    failure.IsRefusal := by
  unfold timeoutOf at failed
  split at failed
  · nomatch failed
  · split at failed
    · nomatch failed
    · nomatch failed
    · exact isRefusal_of_timeoutOfRounded failed
    · cases failed
      exact ViewFailure.isRefusal_unexpected _

theorem isRefusal_of_contextOf {clock : Clock}
    (failed : contextOf app requestId clock = .error failure) : failure.IsRefusal := by
  unfold contextOf at failed
  cases told : timeoutOf ((app.settings.find? "HANDLER_TIMEOUT").getD (.value .null)) with
  | ok timeout =>
      rw [told] at failed
      cases failed
  | error earlier =>
      rw [told] at failed
      cases failed
      exact isRefusal_of_timeoutOf told

theorem isRefusal_of_callerOf (failed : callerOf app request requestId world = .error failure) :
    failure.IsRefusal := by
  unfold callerOf at failed
  obtain early | ⟨context, -, failed⟩ := of_bind_eq_error failed
  · exact isRefusal_of_contextOf early
  · split at failed
    · cases failed
      exact fun _ => show (400 : Int) ≤ 401 by decide
    · obtain refused | ⟨user, -, failed⟩ := of_bind_eq_error failed
      · obtain ⟨earlier, -, rfl⟩ := exists_of_mapError_eq_error refused
        exact ViewFailure.isRefusal_ofCall earlier
      · cases failed

theorem isRefusal_of_presentedBy (failed : presentedBy app request = .error failure) :
    failure.IsRefusal := by
  obtain unread | ⟨value, -, failed⟩ := of_bind_eq_error failed
  · exact isRefusal_of_contentOf unread
  · obtain ⟨problems, -, rfl⟩ := exists_of_mapError_eq_error failed
    exact ViewFailure.isRefusal_validation problems

theorem isRefusal_of_rotationOf (failed : rotationOf app request requestId world = .error failure) :
    failure.IsRefusal := by
  unfold rotationOf at failed
  obtain unread | ⟨token, -, failed⟩ := of_bind_eq_error failed
  · exact isRefusal_of_presentedBy unread
  obtain early | ⟨context, -, failed⟩ := of_bind_eq_error failed
  · exact isRefusal_of_contextOf early
  obtain refused | ⟨claims, -, failed⟩ := of_bind_eq_error failed
  · obtain ⟨earlier, -, rfl⟩ := exists_of_mapError_eq_error refused
    exact ViewFailure.isRefusal_ofCall earlier
  split at failed
  · cases failed
    exact ViewFailure.isRefusal_unexpected _
  · split at failed
    · cases failed
      exact fun _ => show (400 : Int) ≤ 404 by decide
    · cases failed

end View

end TokenAuthority.Http
