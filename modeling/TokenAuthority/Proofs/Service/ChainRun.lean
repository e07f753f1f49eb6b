import TokenAuthority.Proofs.Service.Chain

/-!
How chains of rotations go.

A timely chain of any length goes through, if the store takes the keys of its user: each token names
its user and the identifier under which it is registered, and only the last token stays registered.
An earlier token of the chain buys nothing any more.  What carries the proof is what holds at each
token of a chain (`Holds`): a sign-in brings it about, and each link takes it from one token to the
next.
-/

namespace TokenAuthority.Chain

open Call

/-! ### What holds along a chain -/

/-- What holds when a chain that began in a world has come to one of its tokens: the token is the
one drawn last, it is registered from its issue on, and all other keys count as they would without
the chain. -/
structure Holds (service : TokenService) (user : Text) (start : World) (turn : Nat)
    (tenure : Tenure) (token : RefreshToken) (world : World) : Prop where
  issued : RefreshToken.issue user service.policy.secret (start.idAfter turn)
    service.policy.refreshLifetime tenure.issued.wall = .ok token
  near : IsNear tenure.issued.wall
  nearEnd : IsNear (Instant.floorToSecond tenure.issued.wall + service.policy.refreshLifetime)
  since : ∃ passed : Nat, tenure.issued = start.clock.advance passed
  clock : world.clock = tenure.now
  faults : world.faults = {}
  taken : world.store.takes user = true
  ids : world.ids = start.ids
  drawn : world.tokensDrawn = start.tokensDrawn + (turn + 1)
  entry : world.store.find? (start.keyAfter user turn) =
    some (world.store.deadlineAfter tenure.issued (service.registeredSeconds tenure.issued))
  others : ∀ key, key ≠ start.keyAfter user turn → ∀ later : Nat,
    world.store.liveDeadline? (world.clock.advance later) key =
      start.store.liveDeadline? (world.clock.advance later) key

namespace Holds

variable {service : TokenService} {user : Text} {start world : World} {turn : Nat}
  {tenure : Tenure} {token : RefreshToken}
  (holds : Holds service user start turn tenure token world)

include holds

theorem withReports (reports : List Log.Event) :
    Holds service user start turn tenure token (world.withReports reports) :=
  ⟨holds.issued, holds.near, holds.nearEnd, holds.since, holds.clock, holds.faults,
    holds.taken, holds.ids, holds.drawn, holds.entry, holds.others⟩

theorem advance (milliseconds : Nat) :
    Holds service user start turn (tenure.after milliseconds) token
      (world.advance milliseconds) where
  issued := holds.issued
  near := holds.near
  nearEnd := holds.nearEnd
  since := holds.since
  clock := by
    rw [Tenure.now_after, ← holds.clock]
    rfl
  faults := holds.faults
  taken := holds.taken
  ids := holds.ids
  drawn := holds.drawn
  entry := holds.entry
  others := by
    intro key differs later
    have same := holds.others key differs (milliseconds + later)
    rw [Nat.cast_add, ← Clock.advance_advance] at same
    exact same

theorem isLive (covered : tenure.IsCovered service) :
    world.IsLive user (start.idAfter turn).text := by
  have live := Store.isLive_advance_of_find? (Duration.one_le_storeSeconds _) holds.entry covered
  unfold World.IsLive
  rw [holds.clock]
  exact live

theorem token_eq :
    token.id = start.idAfter turn ∧ token.lifespan = service.lifespanAt tenure.issued := by
  obtain ⟨signed, -, rfl⟩ := (RefreshToken.issue_eq_ok_iff holds.near.isInRange
    holds.nearEnd.isInRange).mp holds.issued
  exact ⟨rfl, rfl⟩

theorem nextId : world.nextId = start.idAfter (turn + 1) := by
  unfold World.nextId World.idAfter
  rw [holds.ids, holds.drawn]

theorem exists_clock_eq : ∃ passed : Nat, world.clock = start.clock.advance passed := by
  obtain ⟨passed, since⟩ := holds.since
  refine ⟨passed + tenure.held, ?_⟩
  rw [holds.clock, Tenure.now, since, Clock.advance_advance, Nat.cast_add]

theorem start_liveDeadline?_eq_none {key : Text}
    (unregistered : ¬start.store.IsLive start.clock key) (later : Nat) :
    start.store.liveDeadline? (world.clock.advance later) key = none := by
  obtain ⟨passed, clock⟩ := holds.exists_clock_eq
  rw [clock, Clock.advance_advance]
  exact Store.liveDeadline?_advance_eq_none (by omega)
    ((Store.not_isLive_iff _ _ _).mp unregistered)

/-- A token that is drawn earlier or later than the current one does not count. -/
theorem not_isLive (userPart : StoreKey.isPart user = true) {last drawn : Nat}
    (fresh : Fresh start user last) (inRange : drawn ≤ last) (atTurn : turn ≤ last)
    (differs : drawn ≠ turn) (later : Nat) :
    ¬world.store.IsLive (world.clock.advance later) (start.keyAfter user drawn) := by
  rw [Store.not_isLive_iff,
    holds.others _ (fresh.keyAfter_ne userPart inRange atTurn differs) later]
  exact holds.start_liveDeadline?_eq_none (fresh.unregistered drawn inRange) later

/-- Validating the current token tells its user, with surrogates joined, and its identifier. -/
theorem runIn_validateRefresh (userPart : StoreKey.isPart user = true) {context : Option Context}
    (active : (service.resolve context).hasExpired world.clock world.raised = false)
    (near : IsNear world.clock.wall)
    (unexpired : world.clock.wall < (service.lifespanAt tenure.issued).expiry) :
    ∃ reports, runIn (service.validateRefresh context token.signed) world =
      (.ok ⟨user.join, start.idAfter turn⟩, world.withReports reports) := by
  have later : tenure.issued.wall ≤ world.clock.wall := by
    rw [holds.clock]
    exact tenure.issued_le_now
  rw [← holds.token_eq.2] at unexpired
  have verified := RefreshToken.verify?_of_issue userPart holds.issued near later unexpired
  obtain ⟨reports, ran⟩ := service.runIn_validateRefresh context token.signed world
  refine ⟨reports, ran.trans ?_⟩
  rw [TokenService.validatedRefresh_of_active active, verified]

end Holds

/-! ### Calls for a pair -/

theorem Issue.runIn_run (issue : Issue) (service : TokenService) (user : UserSnapshot)
    (previous : Text) (world : World) :
    runIn (issue.run service user previous) world =
      runIn (service.newPair issue.context user previous)
        (world.disturbed issue.elapsed issue.raised) := by
  rw [Issue.run, runIn_bind, runIn_modify]

theorem Issue.registeringFailure?_calling (issue : Issue) {world : World}
    (sound : world.faults = {}) {user : Text} (taken : world.store.takes user = true)
    (token : TokenId) :
    (issue.calling world).registeringFailure? (StoreKey.join user token.text) = none :=
  StoreAccess.registeringFailure?_eq_none sound
    ((Store.takes_join_text world.store user token).trans taken)

section Calls

variable {service : TokenService} {user : UserSnapshot} {start world : World} {issue : Issue}
  {turn : Nat} {tenure : Tenure} {token : RefreshToken}

/-- The store after a call has registered its token. -/
theorem store_registeredIn_calling {owner : Text} {refresh : RefreshToken}
    (fits : issue.Fits service world.clock world.raised)
    (minted : service.mint owner world = .ok refresh) (newId : refresh.id = start.idAfter turn) :
    (refresh.registeredIn owner (issue.calling world)).store =
      world.store.register world.clock (start.keyAfter owner turn)
        (service.registeredSeconds world.clock) := by
  have seconds : Duration.storeSeconds (refresh.timeLeft world.clock.wall) =
      service.registeredSeconds world.clock := by
    obtain ⟨signed, -, rfl⟩ := (RefreshToken.issue_eq_ok_iff fits.near.isInRange
      fits.refreshNear.isInRange).mp minted
    rfl
  rw [← seconds, World.keyAfter, ← newId]
  rfl

/-- While the next token is registered, an earlier one counts as it does without. -/
theorem isLive_registeredIn_iff (userPart : StoreKey.isPart user.id = true)
    (fresh : Fresh start user.id (turn + 1)) {refresh : RefreshToken}
    (newId : refresh.id = start.idAfter (turn + 1)) {earlier : Nat} (order : earlier ≤ turn) :
    (refresh.registeredIn user.id (issue.calling world)).IsLive user.id
        (start.idAfter earlier).text ↔
      world.store.IsLive (world.clock.advance issue.elapsed) (start.keyAfter user.id earlier) := by
  have differs : start.keyAfter user.id earlier ≠ start.keyAfter user.id (turn + 1) :=
    fresh.keyAfter_ne userPart (Nat.le_succ_of_le order) (Nat.le_refl _)
      (Nat.ne_of_lt (Nat.lt_succ_of_le order))
  unfold World.keyAfter at differs
  rw [← newId] at differs
  exact refresh.isLive_addedTo_iff user.id (issue.calling world) _ differs

/-- Once the current token has been exchanged, the chain has come to the next one. -/
theorem Holds.next (holds : Holds service user.id start turn tenure token world)
    (userPart : StoreKey.isPart user.id = true) (fresh : Fresh start user.id (turn + 1))
    (fits : issue.Fits service world.clock world.raised) {next : RefreshToken} {after : World}
    (issued : RefreshToken.issue user.id service.policy.secret (start.idAfter (turn + 1))
      service.policy.refreshLifetime world.clock.wall = .ok next)
    (clock : after.clock = world.clock.advance issue.elapsed) (faults : after.faults = {})
    (ids : after.ids = world.ids) (drawn : after.tokensDrawn = world.tokensDrawn + 1)
    (store : after.store =
      (world.store.register world.clock (start.keyAfter user.id (turn + 1))
        (service.registeredSeconds world.clock)).remove (start.keyAfter user.id turn)) :
    Holds service user.id start (turn + 1) ⟨world.clock, issue.elapsed⟩ next after where
  issued := issued
  near := fits.near
  nearEnd := fits.refreshNear
  since := holds.exists_clock_eq
  clock := clock
  faults := faults
  taken := by
    rw [store, Store.takes_remove, Store.takes_register]
    exact holds.taken
  ids := ids.trans holds.ids
  drawn := by rw [drawn, holds.drawn, Nat.add_assoc]
  entry := by
    have keysDiffer : start.keyAfter user.id (turn + 1) ≠ start.keyAfter user.id turn :=
      fresh.keyAfter_ne userPart (Nat.le_refl _) (Nat.le_succ turn) (Nat.succ_ne_self turn)
    simp [store, keysDiffer]
  others := by
    intro key differs later
    have advanced := holds.advance issue.elapsed
    rw [store, clock, Store.liveDeadline?_remove]
    split
    · next isPrevious =>
        rw [isPrevious]
        exact (advanced.start_liveDeadline?_eq_none
          (fresh.unregistered turn (Nat.le_succ turn)) later).symm
    · next notPrevious =>
        rw [Store.liveDeadline?_register_of_ne _ _ _ differs]
        exact advanced.others key notPrevious later

variable (userPart : StoreKey.isPart user.id = true) (signs : service.Signs)

include userPart signs

/-- A sign-in begins a chain. -/
theorem runIn_signIn (faults : start.faults = {}) (taken : start.store.takes user.id = true)
    (fits : issue.Fits service start.clock start.raised) :
    ∃ pair after, runIn (issue.run service user []) start = (.ok pair, after) ∧
      Holds service user.id start 0 ⟨start.clock, issue.elapsed⟩ pair.refresh after ∧
      after.raised = issue.raised ++ start.raised := by
  have wellFormed : (!([] : Text).isEmpty && !TokenId.isCanonical []) = false := rfl
  have dated : service.IsDatedAt (start.disturbed issue.elapsed issue.raised).clock.wall :=
    fits.isDatedAt
  obtain ⟨identity, refresh, admitted, minted⟩ :=
    TokenService.exists_minted_pair signs dated userPart wellFormed
  have newId : refresh.id = start.idAfter 0 := (TokenService.mint_eq_ok minted).1
  have ends : TokenService.Ends service issue.context user []
      (start.disturbed issue.elapsed issue.raised) (.ok ⟨identity, refresh⟩)
      (refresh.registeredIn user.id (issue.calling start)) :=
    .settled admitted minted
      (.begun fits.active (issue.registeringFailure?_calling faults taken refresh.id) rfl)
  obtain ⟨reports, ran⟩ := TokenService.runIn_newPair_of_ends ends
  have store := store_registeredIn_calling fits minted newId
  refine ⟨⟨identity, refresh⟩, _, (issue.runIn_run _ _ _ _).trans ran,
    Holds.withReports ?_ reports, rfl⟩
  exact {
    issued := minted
    near := fits.near
    nearEnd := fits.refreshNear
    since := ⟨0, by simp⟩
    clock := rfl
    faults := faults
    taken := by
      rw [store, Store.takes_register]
      exact taken
    ids := rfl
    drawn := rfl
    entry := by
      rw [store]
      simp
    others := by
      intro key differs later
      rw [store]
      exact Store.liveDeadline?_register_of_ne _ _ _ differs _ }

/-- No chain begins for a user whose keys the store does not take. -/
theorem runIn_run_of_untaken (faults : start.faults = {})
    (untaken : start.store.takes user.id = false)
    (fits : issue.Fits service start.clock start.raised) (links : List Link) :
    ∃ after, runIn (run service user issue links) start = (.error .unencodable, after) ∧
      after.store = start.store := by
  have wellFormed : (!([] : Text).isEmpty && !TokenId.isCanonical []) = false := rfl
  have dated : service.IsDatedAt (start.disturbed issue.elapsed issue.raised).clock.wall :=
    fits.isDatedAt
  obtain ⟨identity, refresh, admitted, minted⟩ :=
    TokenService.exists_minted_pair signs dated userPart wellFormed
  have sound : (issue.calling start).faults = {} := faults
  have refuses : (issue.calling start).store.takes (StoreKey.join user.id refresh.id.text) =
      false :=
    (start.store.takes_join_text user.id refresh.id).trans untaken
  have fails : (issue.calling start).registeringFailure?
      (StoreKey.join user.id refresh.id.text) = some .unencodable := by
    rw [StoreAccess.registeringFailure?_of_no_faults sound, refuses]
    rfl
  have ends : TokenService.Ends service issue.context user []
      (start.disturbed issue.elapsed issue.raised) (.error .unencodable) (issue.calling start) := by
    have settles : TokenService.Settles (service.resolve issue.context) user.id [] refresh
        (issue.calling start) (.error .unencodable) (issue.calling start) :=
      .unregistered fits.active fails
    exact .settled admitted minted settles
  obtain ⟨reports, ran⟩ := TokenService.runIn_newPair_of_ends ends
  have signIn := (issue.runIn_run service user [] start).trans ran
  refine ⟨(issue.calling start).withReports reports, ?_, rfl⟩
  unfold run
  exact runIn_bind_of_error signIn _

section Following

variable (holds : Holds service user.id start turn tenure token world)
  (fresh : Fresh start user.id (turn + 1)) (fits : issue.Fits service world.clock world.raised)

include holds fits

/-- Whatever identifier a call presents, it is admitted and mints the next token. -/
theorem Holds.exists_minted_next (presented : TokenId) :
    ∃ identity refresh,
      service.admission user presented.text
          (world.disturbed issue.elapsed issue.raised).clock.wall = .ok identity ∧
        service.mint user.id (world.disturbed issue.elapsed issue.raised) = .ok refresh ∧
        refresh.id = start.idAfter (turn + 1) := by
  have dated : service.IsDatedAt (world.disturbed issue.elapsed issue.raised).clock.wall :=
    fits.isDatedAt
  obtain ⟨identity, refresh, admitted, minted⟩ :=
    TokenService.exists_minted_rotation signs dated userPart presented
  exact ⟨identity, refresh, admitted, minted,
    (TokenService.mint_eq_ok minted).1.trans holds.nextId⟩

include fresh

/-- A token that is covered can be exchanged for the next one. -/
theorem Holds.runIn_exchange (covered : (tenure.after issue.elapsed).IsCovered service) :
    ∃ pair after,
      runIn (issue.run service user (start.idAfter turn).text) world = (.ok pair, after) ∧
      Holds service user.id start (turn + 1) ⟨world.clock, issue.elapsed⟩ pair.refresh after ∧
      after.raised = issue.raised ++ world.raised := by
  obtain ⟨identity, refresh, admitted, minted, newId⟩ :=
    holds.exists_minted_next userPart signs fits (start.idAfter turn)
  have present : (refresh.registeredIn user.id (issue.calling world)).IsLive user.id
      (start.idAfter turn).text :=
    (isLive_registeredIn_iff userPart fresh newId (Nat.le_refl turn)).mpr
      ((holds.advance issue.elapsed).isLive covered)
  have ends : TokenService.Ends service issue.context user (start.idAfter turn).text
      (world.disturbed issue.elapsed issue.raised) (.ok ⟨identity, refresh⟩)
      ((refresh.registeredIn user.id (issue.calling world)).removing user.id
        (start.idAfter turn).text) :=
    .settled admitted minted
      (.rotated fits.active
        (issue.registeringFailure?_calling holds.faults holds.taken refresh.id)
        (TokenId.text_ne_nil _) fits.stillActive
        (StoreAccess.removingFails_of_no_faults holds.faults _) present)
  obtain ⟨reports, ran⟩ := TokenService.runIn_newPair_of_ends ends
  have issued : RefreshToken.issue user.id service.policy.secret (start.idAfter (turn + 1))
      service.policy.refreshLifetime world.clock.wall = .ok refresh := by
    rw [← holds.nextId]
    exact minted
  have store : ((refresh.registeredIn user.id (issue.calling world)).removing user.id
      (start.idAfter turn).text).store =
      (world.store.register world.clock (start.keyAfter user.id (turn + 1))
        (service.registeredSeconds world.clock)).remove (start.keyAfter user.id turn) := by
    rw [← store_registeredIn_calling fits minted newId]
    rfl
  have reached : Holds service user.id start (turn + 1) ⟨world.clock, issue.elapsed⟩ refresh
      ((refresh.registeredIn user.id (issue.calling world)).removing user.id
        (start.idAfter turn).text) :=
    holds.next userPart fresh fits issued rfl holds.faults rfl rfl store
  exact ⟨⟨identity, refresh⟩, _, (issue.runIn_run _ _ _ _).trans ran, reached.withReports reports,
    rfl⟩

/-- An earlier token of the chain is refused, and every entry counts on as if it had not been
presented. -/
theorem Holds.runIn_replay {earlier : Nat} (isEarlier : earlier < turn) :
    ∃ after,
      runIn (issue.run service user (start.idAfter earlier).text) world =
        (.error (.service (.invalidToken .refresh)), after) ∧
      after.clock = world.clock.advance issue.elapsed ∧
      Store.CountsAlike after.clock after.store world.store := by
  obtain ⟨identity, refresh, admitted, minted, newId⟩ :=
    holds.exists_minted_next userPart signs fits (start.idAfter earlier)
  have gone := holds.not_isLive userPart fresh (Nat.le_succ_of_le (Nat.le_of_lt isEarlier))
    (Nat.le_succ turn) (Nat.ne_of_lt isEarlier) issue.elapsed
  have unused := holds.not_isLive userPart fresh (Nat.le_refl _) (Nat.le_succ turn)
    (Nat.succ_ne_self turn) issue.elapsed
  have absent : ¬(refresh.registeredIn user.id (issue.calling world)).IsLive user.id
      (start.idAfter earlier).text :=
    mt (isLive_registeredIn_iff userPart fresh newId (Nat.le_of_lt isEarlier)).mp gone
  have ends : TokenService.Ends service issue.context user (start.idAfter earlier).text
      (world.disturbed issue.elapsed issue.raised) (.error (.service (.invalidToken .refresh)))
      (((refresh.registeredIn user.id (issue.calling world)).removing user.id
        (start.idAfter earlier).text).rollingBack user.id refresh.id.text) :=
    .settled admitted minted
      (.missing fits.active
        (issue.registeringFailure?_calling holds.faults holds.taken refresh.id)
        (TokenId.text_ne_nil _) fits.stillActive
        (StoreAccess.removingFails_of_no_faults holds.faults _) absent)
  have sound : ((refresh.registeredIn user.id (issue.calling world)).removing user.id
      (start.idAfter earlier).text).faults = {} := holds.faults
  rw [World.rollingBack_of_no_faults sound] at ends
  obtain ⟨reports, ran⟩ := TokenService.runIn_newPair_of_ends ends
  refine ⟨_, (issue.runIn_run _ _ _ _).trans ran, rfl, ?_⟩
  unfold World.keyAfter at unused
  rw [← newId] at unused
  exact ((Store.countsAlike_remove absent).remove _).trans
    (Store.countsAlike_remove_register unused _)

end Following

/-! ### Links -/

/-- Validating a token and exchanging it takes a chain from one of its tokens to the next one. -/
theorem Holds.runIn_link (holds : Holds service user.id start turn tenure token world)
    (fresh : Fresh start user.id (turn + 1)) {link : Link}
    (fits : link.Fits service tenure world.raised) :
    ∃ pair after,
      runIn (link.run service user token) world =
        (.ok (⟨user.id.join, start.idAfter turn⟩, pair), after) ∧
      Holds service user.id start (turn + 1) (link.next tenure) pair.refresh after ∧
      after.raised = link.raised ++ world.raised := by
  have validating := holds.advance link.wait
  have nearThen : IsNear (link.validatedAt tenure).now.wall := by
    refine holds.near.between fits.exchanging.near (link.validatedAt tenure).issued_le_now ?_
    unfold Link.exchangedAt
    rw [Tenure.now_after]
    simp [Clock.advance]
  obtain ⟨reports, validated⟩ := validating.runIn_validateRefresh userPart
    (by rw [validating.clock]; exact fits.validating) (by rw [validating.clock]; exact nearThen)
    (by rw [validating.clock]; exact fits.unexpired)
  have exchanging := (validating.withReports reports).advance link.pause
  obtain ⟨pair, after, exchanged, holdsAfter, raised⟩ := exchanging.runIn_exchange userPart signs
    fresh (by rw [exchanging.clock]; exact fits.exchanging) fits.covered
  rw [exchanging.clock] at holdsAfter
  refine ⟨pair, after, ?_, holdsAfter, raised⟩
  unfold Link.run
  rw [runIn_bind_of_ok (runIn_modify _ _), runIn_bind_of_ok validated,
    runIn_bind_of_ok (runIn_modify _ _), runIn_bind_of_ok exchanged, runIn_pure]

/-- All links of a timely chain go through. -/
theorem Holds.runIn_links {links : List Link}
    (holds : Holds service user.id start turn tenure token world)
    (fresh : Fresh start user.id (turn + links.length))
    (timely : Timely service tenure world.raised links) :
    ∃ answers last after,
      runIn (runLinks service user links token) world = (.ok answers, after) ∧
      answers.map Prod.fst =
        (List.range' turn links.length).map (fun index => ⟨user.id.join, start.idAfter index⟩) ∧
      answers.map (fun answer => answer.2.refresh.id) =
        (List.range' (turn + 1) links.length).map start.idAfter ∧
      Holds service user.id start (turn + links.length) (lastTenure tenure links) last after ∧
      (lastTenure tenure links).IsCovered service := by
  induction links generalizing turn tenure token world with
  | nil => exact ⟨[], token, world, rfl, rfl, rfl, holds, timely⟩
  | cons link rest inductionHypothesis =>
      obtain ⟨fits, timelyRest⟩ := timely
      have length : turn + (link :: rest).length = turn + 1 + rest.length := by
        rw [List.length_cons]
        omega
      rw [length] at fresh ⊢
      obtain ⟨pair, next, linked, holdsNext, raised⟩ :=
        holds.runIn_link userPart signs (fresh.mono (Nat.le_add_right _ _)) fits
      rw [← raised] at timelyRest
      obtain ⟨answers, last, after, ran, claims, ids, holdsLast, covered⟩ :=
        inductionHypothesis holdsNext fresh timelyRest
      refine ⟨(⟨user.id.join, start.idAfter turn⟩, pair) :: answers, last, after, ?_, ?_, ?_,
        holdsLast,
        covered⟩
      · unfold runLinks
        rw [runIn_bind_of_ok linked, runIn_bind_of_ok ran, runIn_pure]
      · rw [List.map_cons, claims, List.length_cons, List.range'_succ, List.map_cons]
      · rw [List.map_cons, ids, List.length_cons, List.range'_succ, List.map_cons,
          holdsNext.token_eq.1]

end Calls

/-! ### Whole chains -/

/-- What a chain comes to.  Its validations tell the user and the identifiers of the tokens in turn,
and all of its tokens but the last one are gone.  A high surrogate right before a low one in the
identifier of the user is told as the character that they stand for. -/
structure Succeeds (service : TokenService) (user : UserSnapshot) (start : World) (signIn : Issue)
    (links : List Link) (first : TokenPair) (answers : List (RefreshClaims × TokenPair))
    (after : World) : Prop where
  ids : (first :: answers.map Prod.snd).map (fun pair => pair.refresh.id) =
    (List.range (links.length + 1)).map start.idAfter
  claims : answers.map Prod.fst =
    (List.range links.length).map fun index => ⟨user.id.join, start.idAfter index⟩
  named : user.id.IsUnpaired → ∀ answer ∈ answers, answer.1.user = user.id
  clock : after.clock = (lastTenure ⟨start.clock, signIn.elapsed⟩ links).now
  live : after.IsLive user.id (start.idAfter links.length).text
  others : ∀ key, key ≠ start.keyAfter user.id links.length →
    after.store.liveDeadline? after.clock key = start.store.liveDeadline? after.clock key
  /-- Presenting an earlier token is refused.  It makes no difference to what counts, so that the
  current token stays live until it ends. -/
  replays : ∀ earlier < links.length, ∀ (wait : Nat) (issue : Issue),
    Fresh start user.id (links.length + 1) →
    issue.Fits service (after.clock.advance wait) after.raised →
    ∃ error replayed,
      runIn (issue.run service user (start.idAfter earlier).text) (after.advance wait) =
        (.error (.service error), replayed) ∧
      (error.category = .authorization ∧ error.message = "invalid refresh token") ∧
      Store.CountsAlike replayed.clock replayed.store after.store ∧
      (((lastTenure ⟨start.clock, signIn.elapsed⟩ links).after
          (wait + issue.elapsed)).IsCovered service →
        replayed.IsLive user.id (start.idAfter links.length).text)

variable {service : TokenService} {user : UserSnapshot} {start : World} {signIn : Issue}

/-- A timely chain of any length goes through, and at every point of it only the last token counts
besides what had counted before. -/
theorem run_succeeds (userPart : StoreKey.isPart user.id = true) (signs : service.Signs)
    (sound : start.faults = {}) (taken : start.store.takes user.id = true)
    (begins : signIn.Fits service start.clock start.raised)
    {links : List Link}
    (timely : Timely service ⟨start.clock, signIn.elapsed⟩ (signIn.raised ++ start.raised) links)
    (fresh : Fresh start user.id links.length) {passed : List Link} (isPrefix : passed <+: links) :
    ∃ first answers after,
      runIn (run service user signIn passed) start = (.ok (first, answers), after) ∧
        Succeeds service user start signIn passed first answers after := by
  obtain ⟨rest, rfl⟩ := isPrefix
  obtain ⟨first, signedIn, ranFirst, holdsFirst, raised⟩ :=
    runIn_signIn userPart signs sound taken begins
  have freshPassed : Fresh start user.id (0 + passed.length) :=
    fresh.mono (by rw [List.length_append]; omega)
  have timelyPassed := timely.of_append
  rw [← raised] at timelyPassed
  obtain ⟨answers, last, after, ran, claims, ids, holds, covered⟩ :=
    holdsFirst.runIn_links userPart signs freshPassed timelyPassed
  rw [Nat.zero_add] at holds
  refine ⟨first, answers, after, ?_, ?_⟩
  · unfold run
    rw [runIn_bind_of_ok ranFirst, runIn_bind_of_ok ran, runIn_pure]
  · exact {
      ids := by
        rw [List.map_cons, List.map_map, holdsFirst.token_eq.1, List.range_eq_range',
          List.range'_succ, List.map_cons, ← ids]
        rfl
      claims := by
        rw [claims, List.range_eq_range']
      named := by
        intro unpaired answer membership
        have inClaims := List.mem_map_of_mem (f := Prod.fst) membership
        rw [claims] at inClaims
        obtain ⟨index, -, told⟩ := List.mem_map.mp inClaims
        rw [← told]
        exact Text.join_eq_self_iff.mpr unpaired
      clock := holds.clock
      live := holds.isLive covered
      others := fun key differs => by
        have same := holds.others key differs 0
        rwa [Nat.cast_zero, Clock.advance_zero] at same
      replays := by
        intro earlier isEarlier wait issue freshNext fits
        have waiting := holds.advance wait
        obtain ⟨replayed, refused, clock, alike⟩ :=
          waiting.runIn_replay userPart signs freshNext fits isEarlier
        refine ⟨_, replayed, refused, ⟨rfl, by decide⟩, alike, fun coveredStill => ?_⟩
        have live := (waiting.advance issue.elapsed).isLive (by
          unfold Tenure.IsCovered Tenure.after at coveredStill ⊢
          simpa [Nat.add_assoc] using coveredStill)
        refine (alike.isLive_iff _).mpr ?_
        rw [clock]
        exact live }

/-! ### A sample -/

/-- A key server that holds a token of another user. -/
def sampleStart : World :=
  { World.sample with store := .remote ⟨[("v:t", 1800000000000000)]⟩ }

/-- Two links, of which the second one comes late and takes a while. -/
def sampleLinks : List Link :=
  [{ wait := 1500, pause := 20 }, { wait := 3000000, pause := 7, elapsed := 250 }]

/-- Without a deadline and without signals a call is active at all times. -/
theorem fits_sample (elapsed : Nat) {clock : Clock} (raised : List Signal)
    (near : IsNear clock.wall)
    (identityNear : IsNear (Instant.floorToSecond clock.wall + 60000000))
    (refreshNear : IsNear (Instant.floorToSecond clock.wall + 3600000000)) :
    Issue.Fits { elapsed } .sample clock raised :=
  ⟨rfl, rfl, near, identityNear, refreshNear⟩

theorem timely_sample : Timely .sample ⟨sampleStart.clock, 0⟩ [] sampleLinks := by
  refine ⟨⟨rfl, ?_, fits_sample _ _ ?_ ?_ ?_, ?_⟩, ⟨rfl, ?_, fits_sample _ _ ?_ ?_ ?_, ?_⟩,
    show Tenure.IsCovered _ _ from ?_⟩
  all_goals decide +kernel

theorem fresh_sample : Fresh sampleStart "u" 3 := by
  constructor <;> decide +kernel

theorem sample_run_succeeds :
    (StoreKey.isPart "u" = true ∧ TokenService.Signs .sample ∧ sampleStart.faults = {} ∧
      sampleStart.store.takes "u" = true ∧
      Issue.Fits {} .sample sampleStart.clock sampleStart.raised ∧
      Timely .sample ⟨sampleStart.clock, 0⟩ [] sampleLinks ∧ Fresh sampleStart "u" 2 ∧
      sampleLinks <+: sampleLinks) ∧
    ∃ first answers after,
      runIn (run .sample { id := "u" } {} sampleLinks) sampleStart =
        (.ok (first, answers), after) ∧
      answers.map Prod.fst = [⟨"u", .numbered 1⟩, ⟨"u", .numbered 2⟩] ∧
      after.IsLive "u" (TokenId.numbered 3).text ∧
      after.store.liveDeadline? after.clock "v:t" = some (.wall 1800000000000000) ∧
      ∃ error replayed,
        runIn (Issue.run {} .sample { id := "u" } (TokenId.numbered 1).text)
            (after.advance 1000) =
          (.error (.service error), replayed) ∧
        error.message = "invalid refresh token" ∧
        replayed.IsLive "u" (TokenId.numbered 3).text := by
  have userPart : StoreKey.isPart "u" = true := by decide
  have begins : Issue.Fits {} .sample sampleStart.clock sampleStart.raised :=
    fits_sample 0 _ (by decide +kernel) (by decide +kernel) (by decide +kernel)
  have fresh : Fresh sampleStart "u" 2 := fresh_sample.mono (by decide)
  refine ⟨⟨userPart, TokenService.signs_sample, rfl, rfl, begins, timely_sample, fresh,
    List.prefix_refl _⟩, ?_⟩
  obtain ⟨first, answers, after, ran, succeeds⟩ :=
    @run_succeeds .sample { id := "u" } sampleStart {} userPart TokenService.signs_sample rfl
      rfl begins sampleLinks timely_sample fresh sampleLinks (List.prefix_refl _)
  have kept := succeeds.others "v:t" (by decide +kernel)
  rw [succeeds.clock] at kept
  have fits : Issue.Fits {} .sample (after.clock.advance (1000 : Nat)) after.raised := by
    rw [succeeds.clock]
    exact fits_sample 0 _ (by decide +kernel) (by decide +kernel) (by decide +kernel)
  obtain ⟨error, replayed, refused, ⟨-, worded⟩, -, live⟩ :=
    succeeds.replays 0 (by decide) 1000 {} fresh_sample fits
  refine ⟨first, answers, after, ran, succeeds.claims, succeeds.live, ?_, error, replayed, refused,
    worded, live ?_⟩
  · rw [succeeds.clock, kept]
    decide +kernel
  · decide +kernel

/-- A user whose identifier holds the two surrogates of a character is told by that character, and a
key server does not take the keys of that user. -/
theorem sample_run_paired :
    let user : UserSnapshot := { id := [.high 0x3d, .low 0x200] }
    (StoreKey.isPart user.id = true ∧ TokenService.Signs .sample ∧ World.sample.faults = {} ∧
      World.sample.store = .memory .empty ∧ Issue.Fits {} .sample World.sample.clock [] ∧
      Timely .sample ⟨World.sample.clock, 0⟩ [] [{}] ∧ Fresh .sample user.id 1) ∧
    (∃ first answers after,
      runIn (run .sample user {} [{}]) .sample = (.ok (first, answers), after) ∧
      answers.map Prod.fst = [⟨"😀", .numbered 1⟩] ∧
      answers.map Prod.fst ≠ [⟨user.id, .numbered 1⟩]) ∧
    ∃ after, runIn (run .sample user {} [{}]) { World.sample with store := .remote .empty } =
      (.error .unencodable, after) := by
  intro user
  have userPart : StoreKey.isPart user.id = true := by decide
  have begins : Issue.Fits {} .sample World.sample.clock [] :=
    fits_sample 0 _ (by decide +kernel) (by decide +kernel) (by decide +kernel)
  have timely : Timely .sample ⟨World.sample.clock, 0⟩ [] [{}] := by
    refine ⟨⟨rfl, ?_, fits_sample _ _ ?_ ?_ ?_, ?_⟩, show Tenure.IsCovered _ _ from ?_⟩
    all_goals decide +kernel
  have fresh : Fresh .sample user.id 1 := by
    constructor <;> decide +kernel
  refine ⟨⟨userPart, TokenService.signs_sample, rfl, rfl, begins, timely, fresh⟩, ?_, ?_⟩
  · obtain ⟨first, signedIn, ranFirst, holds, raised⟩ :=
      runIn_signIn userPart TokenService.signs_sample rfl rfl begins
    have timelyAfter : Timely .sample ⟨World.sample.clock, 0⟩ signedIn.raised [{}] := by
      rw [raised]
      exact timely
    obtain ⟨answers, last, after, ran, claims, -⟩ :=
      holds.runIn_links userPart TokenService.signs_sample
        (show Fresh .sample user.id (0 + ([{}] : List Link).length) from fresh) timelyAfter
    have told : answers.map Prod.fst = [⟨"😀", .numbered 1⟩] := by
      rw [claims]
      decide +kernel
    refine ⟨first, answers, after, ?_, told, ?_⟩
    · unfold run
      rw [runIn_bind_of_ok ranFirst, runIn_bind_of_ok ran, runIn_pure]
    · rw [told]
      decide +kernel
  · let start : World := { World.sample with store := .remote .empty }
    have faults : start.faults = {} := rfl
    have untaken : start.store.takes user.id = false := by decide
    obtain ⟨after, ran, -⟩ :=
      runIn_run_of_untaken userPart TokenService.signs_sample faults untaken begins [{}]
    exact ⟨after, ran⟩

end TokenAuthority.Chain
