import TokenAuthority.Proofs.Http.Rotation
import TokenAuthority.Proofs.Service.Entries
import TokenAuthority.Proofs.Token.Spelling

/-!
What requests do to the entries of users.

A request for rotation that succeeds exchanges the entry that it presents, and a sign-out that
succeeds removes the entries of its caller.  No other request makes a difference, whatever answers
it.  So over any run of requests no user comes to have more entries, and a user without any never
gets one.
-/

namespace TokenAuthority.Http

/-! ### Runs of requests -/

/-- A request, with the milliseconds that pass before it and the directory that it finds. -/
structure Visit where
  wait : Nat := 0
  directory : Option UserDirectory := none
  request : Request

/-- A request that was served, with what came of it.  The first world is the one in which it
arrived. -/
structure Encounter where
  app : App
  before : World
  request : Request
  exchange : Exchange
  after : World

def encounter (app : App) (visit : Visit) (world : World) : Encounter :=
  let app := { app with directory := visit.directory }
  let before := world.advance visit.wait
  let served := serve app visit.request before
  ⟨app, before, visit.request, served.1, served.2⟩

def worldAfter (app : App) (start : World) (visits : List Visit) : World :=
  visits.foldl (fun world visit => (encounter app visit world).after) start

def history (app : App) : World → List Visit → List Encounter
  | _, [] => []
  | world, visit :: rest =>
      encounter app visit world :: history app (encounter app visit world).after rest

/-- Whether an identifier that is drawn while a request is served is registered for nobody, and is
not the one that the request presents. -/
def DrawsFresh (app : App) (request : Request) (before after : World) : Prop :=
  after.tokensDrawn ≠ before.tokensDrawn →
    (∀ user, ¬before.IsLive user before.nextId.text) ∧
    ∀ token claims, View.presentedBy app request = .ok token →
      RefreshToken.verify? token app.service.policy.secret before.clock.wall = some claims →
        claims.token ≠ before.nextId

namespace Encounter

variable (encounter : Encounter)

/-- Whether a request led to an endpoint and was answered with success. -/
def Succeeds (endpoint : Endpoint) : Prop :=
  route encounter.app.mount encounter.request.path encounter.request.verb = .to endpoint ∧
    encounter.exchange.response.status = 200

/-- What may come of a request. -/
inductive Accounted : Prop where
  | exchanged (succeeds : encounter.Succeeds .tokens) {token : Text} {claims : RefreshClaims}
      (presented : View.presentedBy encounter.app encounter.request = .ok token)
      (verified : RefreshToken.verify? token encounter.app.service.policy.secret
        encounter.before.clock.wall = some claims)
      (exchanges : encounter.before.Exchanges encounter.after claims.user claims.token.text
        encounter.before.nextId.text)
  | signedOut (succeeds : encounter.Succeeds .signOut) {token : String} {user : UserSnapshot}
      (presented : encounter.request.bearerToken? = some token)
      (verified : IdentityToken.verify? token (some encounter.app.service.policy.publicKey)
        encounter.before.clock.wall = some user)
      (clears : encounter.before.Clears encounter.after user.id)
  | unchanged (notExchanged : ¬encounter.Succeeds .tokens)
      (notSignedOut : ¬encounter.Succeeds .signOut)
      (alike : encounter.before.CountAlike encounter.after)

end Encounter

/-! ### Views -/

section Views

variable (app : App) (request : Request)

/-- What the view of an endpoint may do in a still world. -/
inductive Acts (before : World) : Endpoint → Except ViewFailure Answer → World → Prop where
  | exchanged {token : Text} {claims : RefreshClaims} {answer : Answer} {after : World}
      (status : answer.status = 200) (presented : View.presentedBy app request = .ok token)
      (verified : RefreshToken.verify? token app.service.policy.secret before.clock.wall =
        some claims)
      (exchanges : before.Exchanges after claims.user claims.token.text before.nextId.text) :
      Acts before .tokens (.ok answer) after
  | signedOut {token : String} {user : UserSnapshot} {answer : Answer} {after : World}
      (status : answer.status = 200) (presented : request.bearerToken? = some token)
      (verified : IdentityToken.verify? token (some app.service.policy.publicKey)
        before.clock.wall = some user)
      (clears : before.Clears after user.id) : Acts before .signOut (.ok answer) after
  | refused {endpoint : Endpoint} {failure : ViewFailure} {after : World}
      (refusal : failure.IsRefusal) (alike : before.CountAlike after) :
      Acts before endpoint (.error failure) after
  | read {endpoint : Endpoint} {outcome : Except ViewFailure Answer} {after : World}
      (reads : endpoint.isReading = true) (alike : before.CountAlike after) :
      Acts before endpoint outcome after

end Views

section Acting

variable {app : App} {request : Request} {requestId : String} {world after : World}
  {outcome : Except ViewFailure Answer} (still : world.IsStill) (assigned : world.Serves requestId)

include still assigned

theorem acts_signOut
    (ran : View.runIn (View.signOut app request) world = (outcome, after)) :
    Acts app request world .signOut outcome after ∧ after.IsStill := by
  obtain ⟨reports, goes⟩ := View.runIn_signOut app request assigned
  rw [ran] at goes
  cases told : View.callerOf app request requestId world with
  | error failure =>
      rw [told, Prod.mk.injEq] at goes
      obtain ⟨rfl, rfl⟩ := goes
      exact ⟨.refused (View.isRefusal_of_callerOf told) (fun _ => rfl),
        still.faults, still.elapsed⟩
  | ok caller =>
      obtain ⟨context, user⟩ := caller
      obtain ⟨token, presented, verified⟩ := View.of_callerOf_eq_ok told
      have sound : (world.withReports reports).faults = {} := still.faults
      simp only [told] at goes
      cases refusal : app.service.signOutRefusal? (some context) user.id
          (world.withReports reports) with
      | some failure =>
          obtain ⟨later, refused⟩ := TokenService.runIn_signOut_of_refused sound refusal
          rw [View.runIn_leave refused, Prod.mk.injEq] at goes
          obtain ⟨rfl, rfl⟩ := goes
          exact ⟨.refused (ViewFailure.isRefusal_ofCall _) (fun _ => rfl),
            still.faults, still.elapsed⟩
      | none =>
          obtain ⟨later, left⟩ := TokenService.runIn_signOut sound refusal
          rw [View.runIn_leave left, Prod.mk.injEq] at goes
          obtain ⟨rfl, rfl⟩ := goes
          exact ⟨.signedOut rfl presented verified (world.clears_clearing user.id),
            still.faults, still.elapsed⟩

theorem acts_tokens
    (ran : View.runIn (View.tokens app request) world = (outcome, after))
    (fresh : DrawsFresh app request world after) :
    Acts app request world .tokens outcome after ∧ after.IsStill := by
  obtain ⟨reports, goes⟩ := View.runIn_tokens app request assigned
  rw [ran] at goes
  cases told : View.rotationOf app request requestId world with
  | error failure =>
      rw [told, Prod.mk.injEq] at goes
      obtain ⟨rfl, rfl⟩ := goes
      exact ⟨.refused (View.isRefusal_of_rotationOf told) (fun _ => rfl),
        still.faults, still.elapsed⟩
  | ok asked =>
      obtain ⟨context, claims, user⟩ := asked
      have rotates := View.of_rotationOf_eq_ok told
      obtain ⟨token, presented, verified⟩ := rotates.verified
      obtain ⟨directory, configured, listed⟩ := rotates.listed
      have sameUser := UserDirectory.id_of_find? listed
      have stillEntered : (world.withReports reports).IsStill := ⟨still.faults, still.elapsed⟩
      simp only [told] at goes
      obtain ⟨result, unreported, later, ends, ended⟩ := TokenService.runIn_newPair app.service
        (some context) user claims.token.text (world.withReports reports)
      rw [View.runIn_exchange ended, Prod.mk.injEq] at goes
      obtain ⟨rfl, rfl⟩ := goes
      have endsStill := ends.endsStill stillEntered (View.signal_of_contextOf rotates.found)
        (TokenId.text_ne_nil _) fun drawn =>
          ⟨(fresh drawn).1 user.id, fun same => (fresh drawn).2 token claims presented verified
            (TokenId.text_injective same)⟩
      have clock := ends.sameClock stillEntered
      have stillAfter := ends.isStill stillEntered
      refine ⟨?_, stillAfter.faults, stillAfter.elapsed⟩
      cases result with
      | error failure =>
          exact .refused (ViewFailure.isRefusal_ofCall failure) (endsStill.countAlike clock)
      | ok pair =>
          have exchanges := endsStill.exchanges clock
          rw [sameUser] at exchanges
          exact .exchanged rfl presented verified (exchanges.congr rfl rfl rfl rfl)

/-- Whatever endpoint a request leads to, its view acts in one of the listed ways. -/
theorem acts_ofEndpoint {endpoint : Endpoint}
    (ran : View.runIn (View.ofEndpoint app request endpoint) world = (outcome, after))
    (fresh : DrawsFresh app request world after) :
    Acts app request world endpoint outcome after ∧ after.IsStill := by
  cases endpoint with
  | tokens => exact acts_tokens still assigned ran fresh
  | signOut => exact acts_signOut still assigned ran
  | health =>
      obtain ⟨result, reports, goes⟩ := View.runIn_health app world
      obtain ⟨-, rfl⟩ := Prod.mk.inj (ran.symm.trans goes)
      exact ⟨.read rfl (fun _ => rfl), still.faults, still.elapsed⟩
  | profile =>
      obtain ⟨reports, goes⟩ := View.runIn_profile app request assigned
      obtain ⟨-, rfl⟩ := Prod.mk.inj (ran.symm.trans goes)
      exact ⟨.read rfl (fun _ => rfl), still.faults, still.elapsed⟩
  | staticFile =>
      obtain ⟨-, rfl⟩ := Prod.mk.inj ran
      exact ⟨.read rfl (fun _ => rfl), still.faults, still.elapsed⟩

end Acting

/-! ### Encounters -/

namespace Encounter

variable {app : App} {request : Request} {before after : World} {exchange : Exchange}

/-- A request that leads to no endpoint leaves the world as it was. -/
theorem accounted_of_not_route (still : before.IsStill)
    (leadsNowhere : ∀ endpoint, route app.mount request.path request.verb ≠ .to endpoint)
    (served : serve app request before = (exchange, after)) :
    Accounted ⟨app, before, request, exchange, after⟩ ∧ after.IsStill := by
  obtain ⟨requestId, drawn, outcome, left, dispatched, -, rfl⟩ := of_serve_eq served
  rw [dispatch_of_not_route leadsNowhere dispatched]
  exact ⟨.unchanged (fun succeeds => leadsNowhere _ succeeds.1)
    (fun succeeds => leadsNowhere _ succeeds.1) (fun _ => rfl), still.faults, still.elapsed⟩

/-- What comes of a request in a still world is accounted for, and the world remains still. -/
theorem accounted_of_serve (still : before.IsStill)
    (served : serve app request before = (exchange, after))
    (fresh : DrawsFresh app request before after) :
    Accounted ⟨app, before, request, exchange, after⟩ ∧ after.IsStill := by
  by_cases leads : ∃ endpoint, route app.mount request.path request.verb = .to endpoint
  · obtain ⟨endpoint, leads⟩ := leads
    obtain ⟨requestId, drawn, outcome, left, dispatched, answered, rfl⟩ := of_serve_eq served
    cases ran : View.runIn (View.ofEndpoint app request endpoint)
        (entered request before requestId drawn) with
    | mk result acted =>
      rw [dispatch_of_route leads ran, Prod.mk.injEq] at dispatched
      obtain ⟨rfl, rfl⟩ := dispatched
      have stillEntered : (entered request before requestId drawn).IsStill :=
        ⟨still.faults, still.elapsed⟩
      obtain ⟨acts, stillActed⟩ := acts_ofEndpoint stillEntered
        (serves_entered request before requestId drawn) ran fresh
      refine ⟨?_, stillActed.faults, stillActed.elapsed⟩
      cases acts with
      | exchanged status presented verified exchanges =>
          have success : exchange.response.status = 200 := by
            rw [answered]
            exact status
          exact .exchanged ⟨leads, success⟩ presented verified
            (exchanges.congr rfl rfl rfl rfl)
      | signedOut status presented verified clears =>
          have success : exchange.response.status = 200 := by
            rw [answered]
            exact status
          exact .signedOut ⟨leads, success⟩ presented verified clears
      | @refused _ failure _ refusal alike =>
          have refused : exchange.response.status ≠ 200 := by
            rw [answered]
            exact status_responseTo_ne refusal request requestId
          exact .unchanged (fun succeeds => refused succeeds.2)
            (fun succeeds => refused succeeds.2) alike
      | read reads alike =>
          have notWriting : ∀ other : Endpoint, other.isReading = false →
              ¬Succeeds ⟨app, before, request, exchange, endScope acted⟩ other := by
            intro other writes succeeds
            have same : endpoint = other := Routed.to.inj (leads.symm.trans succeeds.1)
            rw [same, writes] at reads
            cases reads
          exact .unchanged (notWriting .tokens rfl) (notWriting .signOut rfl) alike
  · exact accounted_of_not_route still (fun endpoint isRoute => leads ⟨endpoint, isRoute⟩) served

/-- What is accounted for leaves no user with more entries. -/
theorem Accounted.gainsNone {encounter : Encounter} (accounted : encounter.Accounted) :
    encounter.before.GainsNone encounter.after := by
  cases accounted with
  | exchanged _ _ _ exchanges => exact .of_card_le exchanges.card_liveKeys_le
  | signedOut _ _ _ clears => exact clears.gainsNone
  | unchanged _ _ alike => exact alike.gainsNone

theorem exists_encounter_eq (app : App) (visit : Visit) (world : World) :
    ∃ exchange after,
      serve { app with directory := visit.directory } visit.request (world.advance visit.wait) =
        (exchange, after) ∧
      encounter app visit world = ⟨{ app with directory := visit.directory },
        world.advance visit.wait, visit.request, exchange, after⟩ := by
  cases served : serve { app with directory := visit.directory } visit.request
      (world.advance visit.wait) with
  | mk exchange after =>
      refine ⟨exchange, after, rfl, ?_⟩
      simp only [encounter, served]

end Encounter

/-! ### Whole runs -/

/-- Whatever requests come, each exchanges the entry that it presents, signs its caller out, or
makes no difference to the entries.  No user has more entries after a request than before, nor after
the whole run. -/
theorem requests_accounted (app : App) {start : World} (still : start.IsStill)
    (visits : List Visit)
    (fresh : ∀ encounter ∈ history app start visits,
      DrawsFresh encounter.app encounter.request encounter.before encounter.after) :
    (∀ encounter ∈ history app start visits,
      encounter.Accounted ∧ encounter.before.GainsNone encounter.after) ∧
    start.GainsNone (worldAfter app start visits) := by
  induction visits generalizing start with
  | nil => exact ⟨fun _ inNone => absurd inNone List.not_mem_nil, start.gainsNone_refl⟩
  | cons visit rest inductionHypothesis =>
      obtain ⟨exchange, after, served, met⟩ := Encounter.exists_encounter_eq app visit start
      rw [history, met] at fresh ⊢
      rw [worldAfter, List.foldl_cons, met, ← worldAfter]
      have stillBefore : (start.advance visit.wait).IsStill := ⟨still.faults, still.elapsed⟩
      obtain ⟨accounted, stillAfter⟩ := Encounter.accounted_of_serve stillBefore served
        (fresh _ List.mem_cons_self)
      have waited : start.GainsNone (start.advance visit.wait) :=
        start.gainsNone_advance (Int.natCast_nonneg _)
      have gained := accounted.gainsNone
      obtain ⟨others, whole⟩ := inductionHypothesis stillAfter
        fun later membership => fresh later (List.mem_cons_of_mem _ membership)
      refine ⟨?_, (waited.trans gained).trans whole⟩
      intro later membership
      rcases List.mem_cons.mp membership with isFirst | inRest
      · rw [isFirst]
        exact ⟨accounted, gained⟩
      · exact others later inRest

/-! ### A sample -/

/-- A visit in which the user of the sample presents a token. -/
def sampleVisit (token : String) : Visit where
  directory := some ⟨[sampleUser]⟩
  request := rotationRequest "/api/v1/tokens" token

theorem history_sampleVisit {token : String} {start after : World} {exchange : Exchange}
    (served : serve listingApp (rotationRequest "/api/v1/tokens" token) start =
      (exchange, after)) :
    history sampleApp start [sampleVisit token] =
      [⟨listingApp, start, rotationRequest "/api/v1/tokens" token, exchange, after⟩] := by
  have sameWorld : start.advance 0 = start := by
    unfold World.advance
    rw [Clock.advance_zero]
  have met : encounter sampleApp (sampleVisit token) start =
      ⟨listingApp, start.advance 0, rotationRequest "/api/v1/tokens" token,
        (serve listingApp (rotationRequest "/api/v1/tokens" token) (start.advance 0)).1,
        (serve listingApp (rotationRequest "/api/v1/tokens" token) (start.advance 0)).2⟩ := rfl
  rw [history, history, met, sameWorld, served]

/-- The user of the sample presents the only token that counts, and it is exchanged for another. -/
theorem sample_requests_accounted :
    ∃ token start, SignedIn token start ∧
      let met := history sampleApp start [sampleVisit token]
      (start.IsStill ∧ ∀ encounter ∈ met,
        DrawsFresh encounter.app encounter.request encounter.before encounter.after) ∧
      (∀ encounter ∈ met, encounter.Accounted ∧ encounter.before.GainsNone encounter.after) ∧
      start.GainsNone (worldAfter sampleApp start [sampleVisit token]) ∧
      ∃ encounter, met = [encounter] ∧ encounter.exchange.response.status = 200 ∧
        encounter.before.Exchanges encounter.after "u" (TokenId.numbered 1).text
          (TokenId.numbered 2).text := by
  obtain ⟨token, start, signedIn⟩ := exists_signedIn
  cases served : serve listingApp (rotationRequest "/api/v1/tokens" token) start with
  | mk exchange after =>
      have met := history_sampleVisit served
      obtain ⟨⟨identity, refresh, grants, -⟩, exchanges⟩ := signedIn.describes_rotated served
      rw [signedIn.nextId] at exchanges
      have fresh : ∀ encounter ∈ history sampleApp start [sampleVisit token],
          DrawsFresh encounter.app encounter.request encounter.before encounter.after := by
        rw [met]
        intro encounter membership
        rw [List.mem_singleton.mp membership]
        intro _
        refine ⟨fun user => (signedIn.fresh start.clock user).1, ?_⟩
        intro presented claims presents verified
        exact (signedIn.fresh_of_names ⟨presented, presents_iff.mpr presents, verified⟩).2
      obtain ⟨accounted, gained⟩ :=
        requests_accounted sampleApp signedIn.still [sampleVisit token] fresh
      exact ⟨token, start, signedIn, ⟨signedIn.still, fresh⟩, accounted, gained, _, met, grants.1,
        exchanges⟩

end TokenAuthority.Http
