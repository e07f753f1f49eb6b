import TokenAuthority.Proofs.Http.Presenting
import TokenAuthority.Proofs.Http.Serving
import TokenAuthority.Proofs.Service.Deadline
import TokenAuthority.Proofs.Service.Exchange
import TokenAuthority.Proofs.Token.Identity

/-!
The cases of a request for rotation.

The body of the request is read, the token in it is verified, its user is looked up, and the entry
of the token is exchanged in the store, if that takes the keys of the user.  The first of these
steps that fails decides the answer, and then no entry is changed.
-/

namespace TokenAuthority.Http

/-! ### What a request presents -/

/-- Whether a request presents a refresh token, in the form of a request for rotation. -/
def Presents (app : App) (request : Request) (token : Text) : Prop :=
  ∃ value, View.contentOf app request = .ok value ∧ IsRotationForm value token

/-- Whether a request presents a refresh token that is verified as naming something. -/
def Names (app : App) (request : Request) (world : World) (claims : RefreshClaims) : Prop :=
  ∃ token, Presents app request token ∧
    RefreshToken.verify? token app.service.policy.secret world.clock.wall = some claims

theorem presents_iff {app : App} {request : Request} {token : Text} :
    Presents app request token ↔ View.presentedBy app request = .ok token := by
  unfold Presents View.presentedBy
  constructor
  · rintro ⟨value, read, form⟩
    rw [read, ok_bind, (formLibrary.presents _ _).mpr form]
    rfl
  · intro presented
    obtain ⟨value, read, loaded⟩ := exists_of_bind_eq_ok presented
    exact ⟨value, read, (formLibrary.presents _ _).mp (of_mapError_eq_ok loaded)⟩

/-! ### The cases -/

/-- What decides about a request for rotation, in the order in which it is tried. -/
inductive RotationCase where
  | unread (failure : ViewFailure)
  | malformed
  | untrusted
  | unlisted (user : Text)
  | untaken (claims : RefreshClaims)
  | spent (claims : RefreshClaims)
  | rotated (claims : RefreshClaims) (user : UserSnapshot)

/-- Whether a response is a problem with a status and a detail. -/
def Response.Refuses (response : Response) (status : Int) (detail : Text) : Prop :=
  response.status = status ∧
    ∃ problem, response.content = .problem problem ∧ problem.status = status ∧
      problem.detail = detail

/-- Whether a response hands out a pair of tokens. -/
def Response.Grants (response : Response) (identity refresh : String) : Prop :=
  response.status = 200 ∧
    response.content = .value (.object [("tokens", .object
      [("idToken", .text identity), ("refreshToken", .text refresh)])])

namespace RotationCase

section Cases

variable (app : App) (request : Request) (directory : UserDirectory) (world : World)

/-- When a case applies. -/
inductive Applies : RotationCase → Prop where
  | unread {failure : ViewFailure} (fails : View.contentOf app request = .error failure) :
      Applies (.unread failure)
  | malformed {value : Json} (read : View.contentOf app request = .ok value)
      (noForm : ∀ token, ¬IsRotationForm value token) : Applies .malformed
  | untrusted {token : Text} (presents : Presents app request token)
      (rejected : RefreshToken.verify? token app.service.policy.secret world.clock.wall = none) :
      Applies .untrusted
  | unlisted {claims : RefreshClaims} (names : Names app request world claims)
      (missing : directory.find? claims.user = none) : Applies (.unlisted claims.user)
  | untaken {claims : RefreshClaims} {user : UserSnapshot}
      (names : Names app request world claims)
      (listed : directory.find? claims.user = some user)
      (refuses : world.store.takes claims.user = false) : Applies (.untaken claims)
  | spent {claims : RefreshClaims} {user : UserSnapshot} (names : Names app request world claims)
      (listed : directory.find? claims.user = some user)
      (taken : world.store.takes claims.user = true)
      (dead : ¬world.IsLive claims.user claims.token.text) : Applies (.spent claims)
  | rotated {claims : RefreshClaims} {user : UserSnapshot} (names : Names app request world claims)
      (listed : directory.find? claims.user = some user)
      (taken : world.store.takes claims.user = true)
      (live : world.IsLive claims.user claims.token.text) : Applies (.rotated claims user)

/-- What a case says about the response and the entries afterwards.  A body remains unread only for
its length. -/
def Describes (response : Response) (after : World) : RotationCase → Prop
  | unread failure =>
      failure = .bodyTooLong ∧
        response.Refuses 413 "The data value transmitted exceeds the capacity limit." ∧
        world.CountAlike after
  | malformed => response.Refuses 422 "Validation failed" ∧ world.CountAlike after
  | untrusted => response.Refuses 401 "invalid refresh token" ∧ world.CountAlike after
  | unlisted user =>
      response.Refuses 404 ("User not found: " ++ user) ∧ world.CountAlike after
  | untaken _ => response.Refuses 500 "Unexpected error" ∧ world.CountAlike after
  | spent _ => response.Refuses 401 "invalid refresh token" ∧ world.CountAlike after
  | rotated claims user =>
      (∃ identity refresh, response.Grants identity refresh ∧
        IdentityToken.verify? identity (some app.service.policy.publicKey) world.clock.wall =
          some user.joined ∧
        RefreshToken.verify? refresh app.service.policy.secret world.clock.wall =
          some ⟨claims.user.join, world.nextId⟩) ∧
      world.Exchanges after claims.user claims.token.text world.nextId.text

/-- The case that the steps of a request lead to. -/
def decision : RotationCase :=
  match View.contentOf app request with
  | .error failure => .unread failure
  | .ok value =>
      match loadRotationRequest value with
      | .error _ => .malformed
      | .ok token =>
          match RefreshToken.verify? token app.service.policy.secret world.clock.wall with
          | none => .untrusted
          | some claims =>
              match directory.find? claims.user with
              | none => .unlisted claims.user
              | some user =>
                  if world.store.takes claims.user = false then .untaken claims
                  else if world.IsLive claims.user claims.token.text then .rotated claims user
                  else .spent claims

end Cases

variable {app : App} {request : Request} {directory : UserDirectory} {world : World}

theorem decision_of_names {claims : RefreshClaims} (names : Names app request world claims) :
    decision app request directory world =
      match directory.find? claims.user with
      | none => .unlisted claims.user
      | some user =>
          if world.store.takes claims.user = false then .untaken claims
          else if world.IsLive claims.user claims.token.text then .rotated claims user
          else .spent claims := by
  obtain ⟨token, ⟨value, read, form⟩, verified⟩ := names
  unfold decision
  simp only [read, (formLibrary.presents _ _).mpr form, verified]

theorem Applies.eq_decision {found : RotationCase}
    (applies : found.Applies app request directory world) :
    found = decision app request directory world := by
  cases applies with
  | unread fails =>
      unfold decision
      simp only [fails]
  | @malformed value read noForm =>
      unfold decision
      cases loaded : loadRotationRequest value with
      | ok token => exact absurd ((formLibrary.presents _ _).mp loaded) (noForm token)
      | error problems => simp only [read, loaded]
  | untrusted presents rejected =>
      obtain ⟨value, read, form⟩ := presents
      unfold decision
      simp only [read, (formLibrary.presents _ _).mpr form, rejected]
  | unlisted names missing => rw [decision_of_names names, missing]
  | untaken names listed refuses => simp only [decision_of_names names, listed, if_pos refuses]
  | spent names listed taken dead =>
      simp only [decision_of_names names, listed, taken, Bool.true_eq_false, if_false, if_neg dead]
  | rotated names listed taken live =>
      simp only [decision_of_names names, listed, taken, Bool.true_eq_false, if_false, if_pos live]

theorem exists_applies :
    ∃ found : RotationCase, found.Applies app request directory world := by
  cases content : View.contentOf app request with
  | error failure => exact ⟨_, .unread content⟩
  | ok value =>
      by_cases form : ∃ token, IsRotationForm value token
      · obtain ⟨token, form⟩ := form
        have presents : Presents app request token := ⟨value, content, form⟩
        cases verified : RefreshToken.verify? token app.service.policy.secret
            world.clock.wall with
        | none => exact ⟨_, .untrusted presents verified⟩
        | some claims =>
            have names : Names app request world claims := ⟨token, presents, verified⟩
            cases listed : directory.find? claims.user with
            | none => exact ⟨_, .unlisted names listed⟩
            | some user =>
                cases taken : world.store.takes claims.user with
                | false => exact ⟨_, .untaken names listed taken⟩
                | true =>
                    by_cases live : world.IsLive claims.user claims.token.text
                    · exact ⟨_, .rotated names listed taken live⟩
                    · exact ⟨_, .spent names listed taken live⟩
      · exact ⟨_, .malformed content fun token isForm => form ⟨token, isForm⟩⟩

/-- Exactly one case applies. -/
theorem existsUnique_applies :
    ∃! found : RotationCase, found.Applies app request directory world := by
  obtain ⟨found, applies⟩ := @exists_applies app request directory world
  exact ⟨found, applies, fun other also => also.eq_decision.trans applies.eq_decision.symm⟩

end RotationCase

/-! ### Answers -/

/-- Whether the timeout of an application, if it sets one, is a number of at least a millisecond. -/
def App.GrantsTime (app : App) : Prop :=
  ∃ timeout,
    View.timeoutOf ((app.settings.find? "HANDLER_TIMEOUT").getD (.value .null)) = .ok timeout ∧
      ∀ seconds ∈ timeout, seconds.isPositive = true → Binary64.millisecond.atMost seconds = true

/-- Whether an application is set up to rotate tokens, and nothing fails or passes meanwhile. -/
structure App.IsReady (app : App) (directory : UserDirectory) (world : World) : Prop where
  configured : app.directory = some directory
  keysMatch : Rsa.Matches app.service.policy.privateKey app.service.policy.publicKey
  signs : app.service.Signs
  dated : app.service.IsDatedAt world.clock.wall
  identityLasts :
    Claims.Lifespan.Outlasts world.clock.wall app.service.policy.identityLifetime
  refreshLasts : Claims.Lifespan.Outlasts world.clock.wall app.service.policy.refreshLifetime
  grantsTime : app.GrantsTime
  still : world.IsStill

/-- Entering a request makes no difference to that. -/
theorem App.IsReady.entered {app : App} {directory : UserDirectory} {world : World}
    (ready : app.IsReady directory world) (request : Request) (requestId : String) (drawn : Nat)
    (reports : List Log.Event) :
    app.IsReady directory ((entered request world requestId drawn).withReports reports) :=
  { ready with still := ⟨ready.still.faults, ready.still.elapsed⟩ }

theorem refuses_responseTo (failure : ViewFailure) (request : Request) (requestId : String) :
    (responseTo request requestId (.error failure)).Refuses (failure.shownAs request.path).status
      (failure.shownAs request.path).message :=
  ⟨rfl, _, rfl, rfl, rfl⟩

section Serving

variable {app : App} {request : Request} {directory : UserDirectory} {world after : World}
  {exchange : Exchange}

theorem App.GrantsTime.exists_context (grants : app.GrantsTime) (clock : Clock)
    (requestId : String) :
    ∃ context, View.contextOf app requestId clock = .ok context ∧ context.StaysActive clock := by
  obtain ⟨timeout, told, brief⟩ := grants
  refine ⟨Context.withTimeout clock timeout (some requestId), ?_, rfl, ?_⟩
  · unfold View.contextOf
    rw [told]
    rfl
  · exact Context.hasExpired_withTimeout clock brief (some requestId) []

/-- What there is to rotate when a token is presented. -/
theorem exists_rotationOf_eq (ready : app.IsReady directory world) {token : Text}
    (presents : Presents app request token) (requestId : String) (drawn : Nat) :
    ∃ context : Context, context.StaysActive world.clock ∧
      View.rotationOf app request requestId (entered request world requestId drawn) =
        match RefreshToken.verify? token app.service.policy.secret world.clock.wall with
        | none => .error (.ofCall (.service (.invalidToken .refresh)))
        | some claims =>
            match directory.find? claims.user with
            | none => .error (.missing ("User not found: " ++ claims.user))
            | some user => .ok (context, claims, user) := by
  obtain ⟨context, found, active⟩ := ready.grantsTime.exists_context world.clock requestId
  have early : (app.service.resolve (some context)).hasExpired
      (entered request world requestId drawn).clock
      (entered request world requestId drawn).raised = false := active.hasExpired _
  refine ⟨context, active, ?_⟩
  unfold View.rotationOf
  rw [presents_iff.mp presents, ok_bind, clock_entered, found, ok_bind,
    TokenService.validatedRefresh_of_active early, clock_entered]
  cases RefreshToken.verify? token app.service.policy.secret world.clock.wall with
  | none => rfl
  | some claims =>
      simp only [ready.configured, Except.mapError, ok_bind]
      cases directory.find? claims.user <;> rfl

variable (leads : route app.mount request.path request.verb = .to .tokens)
  (served : serve app request world = (exchange, after))

include leads served

/-- A request with nothing to rotate is refused for the reason that there is nothing. -/
theorem refused_of_rotationOf {failure : ViewFailure}
    (nothing : ∀ requestId drawn,
      View.rotationOf app request requestId (entered request world requestId drawn) =
        .error failure) :
    exchange.response.Refuses (failure.shownAs request.path).status
        (failure.shownAs request.path).message ∧ world.CountAlike after := by
  obtain ⟨requestId, drawn, outcome, left, dispatched, answered, rfl⟩ := of_serve_eq served
  obtain ⟨reports, ran⟩ :=
    View.runIn_tokens app request (serves_entered request world requestId drawn)
  simp only [nothing] at ran
  rw [dispatch_of_route leads ran, Prod.mk.injEq] at dispatched
  obtain ⟨rfl, rfl⟩ := dispatched
  rw [answered]
  exact ⟨refuses_responseTo failure request requestId, fun _ => rfl⟩

end Serving

namespace RotationCase

section Described

variable {app : App} {request : Request} {directory : UserDirectory} {world after : World}
  {exchange : Exchange} (leads : route app.mount request.path request.verb = .to .tokens)
  (served : serve app request world = (exchange, after))

include leads served

/-- A request that presents no token is refused for what is wrong with its body. -/
theorem refused_of_presentedBy {failure : ViewFailure}
    (nothing : View.presentedBy app request = .error failure) :
    exchange.response.Refuses (failure.shownAs request.path).status
        (failure.shownAs request.path).message ∧ world.CountAlike after := by
  apply refused_of_rotationOf leads served
  intro requestId drawn
  unfold View.rotationOf
  rw [nothing]
  rfl

theorem describes_unread {failure : ViewFailure}
    (readable : ∀ fault, View.contentOf app request ≠ .error (.unexpected fault))
    (fails : View.contentOf app request = .error failure) :
    (unread failure).Describes app world exchange.response after := by
  have nothing : View.presentedBy app request = .error failure := by
    unfold View.presentedBy
    rw [fails]
    rfl
  obtain ⟨refuses, alike⟩ := refused_of_presentedBy leads served nothing
  rcases View.of_contentOf_eq_error fails with rfl | ⟨fault, rfl⟩
  · have detail : (ViewFailure.bodyTooLong.shownAs request.path).message =
        "The data value transmitted exceeds the capacity limit." := by
      apply congrArg Text.ofString
      rfl
    rw [detail] at refuses
    exact ⟨rfl, refuses, alike⟩
  · exact absurd fails (readable fault)

theorem describes_malformed {value : Json} (read : View.contentOf app request = .ok value)
    (noForm : ∀ token, ¬IsRotationForm value token) :
    malformed.Describes app world exchange.response after := by
  cases loaded : loadRotationRequest value with
  | ok token => exact absurd ((formLibrary.presents _ _).mp loaded) (noForm token)
  | error problems =>
      have nothing : View.presentedBy app request = .error (.validation problems) := by
        unfold View.presentedBy
        rw [read, ok_bind, loaded]
        rfl
      exact refused_of_presentedBy leads served nothing

variable (ready : app.IsReady directory world)

include ready

theorem describes_untrusted {token : Text} (presents : Presents app request token)
    (rejected : RefreshToken.verify? token app.service.policy.secret world.clock.wall = none) :
    untrusted.Describes app world exchange.response after := by
  have nothing : ∀ requestId drawn,
      View.rotationOf app request requestId (entered request world requestId drawn) =
      .error (.ofCall (.service (.invalidToken .refresh))) := by
    intro requestId drawn
    obtain ⟨context, -, rotation⟩ := exists_rotationOf_eq ready presents requestId drawn
    rw [rotation, rejected]
  exact refused_of_rotationOf leads served nothing

theorem describes_unlisted {claims : RefreshClaims} (names : Names app request world claims)
    (missing : directory.find? claims.user = none) :
    (unlisted claims.user).Describes app world exchange.response after := by
  obtain ⟨token, presents, verified⟩ := names
  have nothing : ∀ requestId drawn,
      View.rotationOf app request requestId (entered request world requestId drawn) =
      .error (.missing ("User not found: " ++ claims.user)) := by
    intro requestId drawn
    obtain ⟨context, -, rotation⟩ := exists_rotationOf_eq ready presents requestId drawn
    rw [rotation, verified]
    simp only [missing]
  exact refused_of_rotationOf leads served nothing

/-- A request that names a listed user is answered by what the call for a pair comes to. -/
theorem answered_of_names {claims : RefreshClaims} {user : UserSnapshot}
    (names : Names app request world claims) (listed : directory.find? claims.user = some user) :
    ∃ requestId drawn reports, ∃ context : Context, context.StaysActive world.clock ∧
      ∀ outcome left,
        Call.runIn (app.service.newPair (some context) user claims.token.text)
            ((entered request world requestId drawn).withReports reports) = (outcome, left) →
          exchange.response = responseTo request requestId
            (((outcome.mapError .ofCall).map View.pairAnswer).map
              fun answer => (answer.status, .value answer.body)) ∧
          after = endScope left := by
  obtain ⟨token, presents, verified⟩ := names
  obtain ⟨requestId, drawn, result, last, dispatched, answered, rfl⟩ := of_serve_eq served
  obtain ⟨context, active, rotation⟩ := exists_rotationOf_eq ready presents requestId drawn
  rw [verified] at rotation
  simp only [listed] at rotation
  obtain ⟨reports, ran⟩ :=
    View.runIn_tokens app request (serves_entered request world requestId drawn)
  refine ⟨requestId, drawn, reports, context, active, ?_⟩
  intro outcome left called
  simp only [rotation] at ran
  rw [View.runIn_exchange called] at ran
  rw [dispatch_of_route leads ran, Prod.mk.injEq] at dispatched
  obtain ⟨rfl, rfl⟩ := dispatched
  exact ⟨answered, rfl⟩

/-- What is said of a user whose keys the store does not take tells nothing of that. -/
theorem describes_untaken {claims : RefreshClaims} {user : UserSnapshot}
    (names : Names app request world claims) (listed : directory.find? claims.user = some user)
    (refuses : world.store.takes claims.user = false) :
    (untaken claims).Describes app world exchange.response after := by
  have sameUser := UserDirectory.id_of_find? listed
  obtain ⟨token, presents, verified⟩ := names
  have userPart := RefreshToken.isPart_of_verify? verified
  rw [← sameUser] at userPart refuses
  obtain ⟨requestId, drawn, reports, context, active, answers⟩ :=
    answered_of_names leads served ready ⟨token, presents, verified⟩ listed
  have readyThen := ready.entered request requestId drawn reports
  obtain ⟨left, failed, alike⟩ := TokenService.exists_untaken readyThen.signs readyThen.dated
    readyThen.still active userPart refuses
  obtain ⟨answered, rfl⟩ := answers _ _ failed
  rw [answered]
  exact ⟨refuses_responseTo (.ofCall .unencodable) request requestId, alike⟩

variable (fresh : ∀ claims, Names app request world claims →
  ¬world.IsLive claims.user world.nextId.text ∧ claims.token ≠ world.nextId)

include fresh

theorem describes_spent {claims : RefreshClaims} {user : UserSnapshot}
    (names : Names app request world claims) (listed : directory.find? claims.user = some user)
    (taken : world.store.takes claims.user = true)
    (dead : ¬world.IsLive claims.user claims.token.text) :
    (spent claims).Describes app world exchange.response after := by
  obtain ⟨unregistered, differs⟩ := fresh claims names
  have sameUser := UserDirectory.id_of_find? listed
  obtain ⟨token, presents, verified⟩ := names
  have userPart := RefreshToken.isPart_of_verify? verified
  rw [← sameUser] at userPart unregistered taken dead
  obtain ⟨requestId, drawn, reports, context, active, answers⟩ :=
    answered_of_names leads served ready ⟨token, presents, verified⟩ listed
  have readyThen := ready.entered request requestId drawn reports
  obtain ⟨left, refused, alike⟩ := TokenService.exists_refused readyThen.signs readyThen.dated
    readyThen.still active userPart unregistered differs taken dead
  obtain ⟨answered, rfl⟩ := answers _ _ refused
  rw [answered]
  exact ⟨refuses_responseTo (.ofCall (.service (.invalidToken .refresh))) request requestId, alike⟩

theorem describes_rotated {claims : RefreshClaims} {user : UserSnapshot}
    (names : Names app request world claims) (listed : directory.find? claims.user = some user)
    (taken : world.store.takes claims.user = true)
    (live : world.IsLive claims.user claims.token.text) :
    (rotated claims user).Describes app world exchange.response after := by
  obtain ⟨unregistered, differs⟩ := fresh claims names
  have sameUser := UserDirectory.id_of_find? listed
  obtain ⟨token, presents, verified⟩ := names
  have userPart := RefreshToken.isPart_of_verify? verified
  rw [← sameUser] at userPart unregistered taken live
  obtain ⟨requestId, drawn, reports, context, active, answers⟩ :=
    answered_of_names leads served ready ⟨token, presents, verified⟩ listed
  have readyThen := ready.entered request requestId drawn reports
  obtain ⟨pair, left, returned, admitted, minted, exchanges⟩ :=
    TokenService.exists_exchanged readyThen.signs readyThen.dated readyThen.still active userPart
      unregistered differs taken live
  obtain ⟨answered, rfl⟩ := answers _ _ returned
  have named : user.id ≠ [] := by
    intro isEmpty
    rw [isEmpty] at userPart
    exact absurd userPart (by decide)
  have identityIssued := (TokenService.admission_eq_ok_iff.mp admitted).2.2
  have identityVerified := IdentityToken.verify?_at_issue named ready.keysMatch identityIssued
    ready.dated.inCalendar ready.identityLasts
  have refreshVerified := RefreshToken.verify?_at_issue userPart minted ready.dated.inCalendar
    ready.refreshLasts
  rw [sameUser] at refreshVerified exchanges
  rw [answered]
  exact ⟨⟨pair.identity.signed, pair.refresh.signed, ⟨rfl, rfl⟩, identityVerified,
    refreshVerified⟩, exchanges.congr rfl rfl rfl rfl⟩

end Described

end RotationCase

/-! ### The main result -/

/-- Exactly one case applies to a request for rotation, and it says how the request is answered and
what becomes of the entries. -/
theorem rotation_decided {app : App} {request : Request} {directory : UserDirectory} {world : World}
    (leads : route app.mount request.path request.verb = .to .tokens)
    (ready : app.IsReady directory world)
    (readable : ∀ fault, View.contentOf app request ≠ .error (.unexpected fault))
    (fresh : ∀ claims, Names app request world claims →
      ¬world.IsLive claims.user world.nextId.text ∧ claims.token ≠ world.nextId) :
    let served := serve app request world
    (∃! found : RotationCase, found.Applies app request directory world) ∧
      ∀ found : RotationCase, found.Applies app request directory world →
        found.Describes app world served.1.response served.2 := by
  cases served : serve app request world with
  | mk exchange after =>
      refine ⟨RotationCase.existsUnique_applies, ?_⟩
      intro found applies
      cases applies with
      | unread fails => exact RotationCase.describes_unread leads served readable fails
      | malformed read noForm => exact RotationCase.describes_malformed leads served read noForm
      | untrusted presents rejected =>
          exact RotationCase.describes_untrusted leads served ready presents rejected
      | unlisted names missing =>
          exact RotationCase.describes_unlisted leads served ready names missing
      | untaken names listed refuses =>
          exact RotationCase.describes_untaken leads served ready names listed refuses
      | spent names listed taken dead =>
          exact RotationCase.describes_spent leads served ready fresh names listed taken dead
      | rotated names listed taken live =>
          exact RotationCase.describes_rotated leads served ready fresh names listed taken live

/-! ### Samples -/

theorem isReady_sampleApp {settings : Settings}
    (untimed : settings.find? "HANDLER_TIMEOUT" = none) (directory : UserDirectory) {world : World}
    (clock : world.clock = World.sample.clock) (still : world.IsStill) :
    App.IsReady { sampleApp with directory := some directory, settings } directory world where
  configured := rfl
  keysMatch := Rsa.matches_mersenneKey
  signs := signs_sampleApp
  dated := by
    rw [clock]
    exact isDatedAt_sampleApp
  identityLasts := by
    rw [clock]
    exact show Claims.Lifespan.Outlasts World.sample.clock.wall
      sampleApp.service.policy.identityLifetime by decide
  refreshLasts := by
    rw [clock]
    exact show Claims.Lifespan.Outlasts World.sample.clock.wall
      sampleApp.service.policy.refreshLifetime by decide
  grantsTime := ⟨none, by simp only [untimed]; rfl, nofun⟩
  still := still

/-- The user of the sample as a directory tells it. -/
def sampleUser : UserSnapshot where
  id := "u"
  email := "u@example.org"

/-- The application of the sample with a directory. -/
def listingApp : App :=
  { sampleApp with directory := some ⟨[sampleUser]⟩ }

theorem route_rotationRequest (token : String) :
    route listingApp.mount (rotationRequest "/api/v1/tokens" token).path
      (rotationRequest "/api/v1/tokens" token).verb = .to .tokens := by
  show route "/api/v1" (Url.ofTarget "/api/v1/tokens").decodedPath ("POST".map Text.capital) = _
  decide +kernel

theorem takes_sampleUser (world : World) : world.store.takes sampleUser.id = true :=
  Store.takes_of_isEncodable (by decide) world.store

section Sampling

variable {token : String} {world : World} (signedIn : SignedIn token world)

include signedIn

theorem SignedIn.presents :
    Presents listingApp (rotationRequest "/api/v1/tokens" token) token :=
  presents_iff.mpr (presentedBy_rotationRequest rfl rfl _ signedIn.nonempty)

theorem SignedIn.names :
    Names listingApp (rotationRequest "/api/v1/tokens" token) world ⟨"u", .numbered 1⟩ :=
  ⟨token, signedIn.presents, signedIn.verified⟩

theorem SignedIn.isReady : listingApp.IsReady ⟨[sampleUser]⟩ world :=
  isReady_sampleApp rfl _ signedIn.clock signedIn.still

theorem SignedIn.fresh_of_names {claims : RefreshClaims}
    (names : Names listingApp (rotationRequest "/api/v1/tokens" token) world claims) :
    ¬world.IsLive claims.user world.nextId.text ∧ claims.token ≠ world.nextId := by
  obtain ⟨presented, presentsToo, verified⟩ := names
  rw [signedIn.eq_of_presentedBy rfl rfl (presents_iff.mp presentsToo) verified]
  exact signedIn.fresh world.clock "u"

/-- The token of the sample is exchanged for another. -/
theorem SignedIn.describes_rotated {exchange : Exchange} {after : World}
    (served : serve listingApp (rotationRequest "/api/v1/tokens" token) world =
      (exchange, after)) :
    (RotationCase.rotated ⟨"u", .numbered 1⟩ sampleUser).Describes listingApp world
      exchange.response after :=
  RotationCase.describes_rotated (route_rotationRequest token) served signedIn.isReady
    (fun _ => signedIn.fresh_of_names) signedIn.names rfl (takes_sampleUser world) signedIn.live

end Sampling

/-- The user of the sample presents the only token that counts, and is handed out another. -/
theorem sample_rotation_decided :
    ∃ token world, SignedIn token world ∧
      (route listingApp.mount (rotationRequest "/api/v1/tokens" token).path
          (rotationRequest "/api/v1/tokens" token).verb = .to .tokens ∧
        listingApp.IsReady ⟨[sampleUser]⟩ world ∧
        (∀ fault, View.contentOf listingApp (rotationRequest "/api/v1/tokens" token) ≠
          .error (.unexpected fault)) ∧
        ∀ claims, Names listingApp (rotationRequest "/api/v1/tokens" token) world claims →
          ¬world.IsLive claims.user world.nextId.text ∧ claims.token ≠ world.nextId) ∧
      (RotationCase.rotated ⟨"u", .numbered 1⟩ sampleUser).Applies listingApp
        (rotationRequest "/api/v1/tokens" token) ⟨[sampleUser]⟩ world ∧
      (RotationCase.rotated ⟨"u", .numbered 1⟩ sampleUser).Describes listingApp world
        (serve listingApp (rotationRequest "/api/v1/tokens" token) world).1.response
        (serve listingApp (rotationRequest "/api/v1/tokens" token) world).2 := by
  obtain ⟨token, world, signedIn⟩ := exists_signedIn
  have leads := route_rotationRequest token
  have readable : ∀ fault, View.contentOf listingApp (rotationRequest "/api/v1/tokens" token) ≠
      .error (.unexpected fault) := by
    intro fault fails
    obtain ⟨value, read, -⟩ := signedIn.presents
    rw [read] at fails
    cases fails
  have fresh : ∀ claims, Names listingApp (rotationRequest "/api/v1/tokens" token) world claims →
      ¬world.IsLive claims.user world.nextId.text ∧ claims.token ≠ world.nextId :=
    fun _ => signedIn.fresh_of_names
  have applies : (RotationCase.rotated ⟨"u", .numbered 1⟩ sampleUser).Applies listingApp
      (rotationRequest "/api/v1/tokens" token) ⟨[sampleUser]⟩ world :=
    .rotated signedIn.names rfl (takes_sampleUser world) signedIn.live
  have decided := rotation_decided leads signedIn.isReady readable fresh
  exact ⟨token, world, signedIn, ⟨leads, signedIn.isReady, readable, fresh⟩, applies,
    decided.2 _ applies⟩

/-- An application that reads ten octets at most, and lists nobody. -/
def limitedApp : App :=
  { sampleApp with
    directory := some ⟨[]⟩
    settings := [("MAX_CONTENT_LENGTH", .value (.int 10))] }

/-- A body may have the form of a request for rotation, with a token that is not verified, and still
be refused for its length. -/
theorem length_decides_first :
    let token : String := "xxxxxxxxxxxxxxxxxxxxxxxx"
    let request := rotationRequest "/api/v1/tokens" token
    (route limitedApp.mount request.path request.verb = .to .tokens ∧
      limitedApp.IsReady ⟨[]⟩ World.sample ∧
      ∀ claims, ¬Names limitedApp request World.sample claims) ∧
    (∃ value, Json.readOctets limitedApp.machine.levels request.body = .ok value ∧
      IsRotationForm value token) ∧
    RefreshToken.verify? token limitedApp.service.policy.secret World.sample.clock.wall = none ∧
    ¬(serve limitedApp request World.sample).1.response.Refuses 401 "invalid refresh token" ∧
    (serve limitedApp request World.sample).1.response.status = 413 := by
  intro token request
  have leads : route limitedApp.mount request.path request.verb = .to .tokens :=
    route_rotationRequest token
  have ready : limitedApp.IsReady ⟨[]⟩ World.sample :=
    isReady_sampleApp rfl _ rfl ⟨rfl, rfl⟩
  have fails : View.contentOf limitedApp request = .error .bodyTooLong := by
    apply contentOf_rotationRequest_of_limit rfl
    decide +kernel
  have unnamed : ∀ claims, ¬Names limitedApp request World.sample claims := by
    rintro claims ⟨presented, ⟨value, read, -⟩, -⟩
    rw [fails] at read
    cases read
  have readable : ∀ fault, View.contentOf limitedApp request ≠ .error (.unexpected fault) := by
    intro fault unexpected
    rw [fails] at unexpected
    cases unexpected
  have rejected : RefreshToken.verify? token limitedApp.service.policy.secret
      World.sample.clock.wall = none := by decide +kernel
  have form : IsRotationForm (.object [(refreshTokenMember, .text token)]) token :=
    isRotationForm_member (by decide)
  cases served : serve limitedApp request World.sample with
  | mk exchange after =>
      obtain ⟨-, ⟨status, -⟩, -⟩ := RotationCase.describes_unread leads served readable fails
      refine ⟨⟨leads, ready, unnamed⟩, ⟨_, readOctets_rotationRequest 899 _ token, form⟩, rejected,
        ?_, status⟩
      rintro ⟨other, -⟩
      rw [show exchange.response.status = 413 from status] at other
      cases other

end TokenAuthority.Http
