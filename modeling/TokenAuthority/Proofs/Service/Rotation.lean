import TokenAuthority.Proofs.Service.StoreAccess
import TokenAuthority.Proofs.Token.Id
import TokenAuthority.Service.TokenService

/-!
How a call for a pair of tokens goes.

The call first checks its arguments and mints both tokens, which needs no store, and then settles
the new refresh token with the store.  `Settles` lists all ways in which the second part can go, and
`runIn_newPair` says that every call either fails in the first part or goes one of these ways.
-/

namespace TokenAuthority

namespace World

/-- The world without a freshly registered token, unless it cannot be removed. -/
def rollingBack (world : World) (user token : Text) : World :=
  if world.removingFails (StoreKey.join user token) then world else world.removing user token

def nextId (world : World) : TokenId :=
  world.ids.token world.tokensDrawn

def drawing (world : World) : World :=
  { world with tokensDrawn := world.tokensDrawn + 1 }

@[simp]
theorem clock_rollingBack (world : World) (user token : Text) :
    (world.rollingBack user token).clock = world.clock := by
  unfold rollingBack
  split <;> rfl

theorem frame_rollingBack (world : World) (user token : Text) :
    Frame world (world.rollingBack user token) := by
  unfold rollingBack
  split
  · exact .refl world
  · exact world.frame_removing user token

theorem rollingBack_of_no_faults {world : World} (sound : world.faults = {})
    (user token : Text) : world.rollingBack user token = world.removing user token := by
  rw [rollingBack, StoreAccess.removingFails_of_no_faults sound, if_neg (by decide)]

@[simp]
theorem rollingBack_withReports (world : World) (reports : List Log.Event) (user token : Text) :
    (world.withReports reports).rollingBack user token =
      (world.rollingBack user token).withReports reports := by
  unfold rollingBack
  rw [removingFails_withReports, removing_withReports]
  split <;> rfl

end World

namespace RefreshToken

/-- The world after an issued token was registered for the time that it has left. -/
def registeredIn (issued : RefreshToken) (user : Text) (world : World) : World :=
  world.registering user issued.id.text (issued.timeLeft world.clock.wall)

@[simp]
theorem registeredIn_withReports (issued : RefreshToken) (user : Text) (world : World)
    (reports : List Log.Event) :
    issued.registeredIn user (world.withReports reports) =
      (issued.registeredIn user world).withReports reports := rfl

/-- The deadline in memory of an entry that is registered for what a token has left. -/
def deadline (issued : RefreshToken) (clock : Clock) : Deadline :=
  .ticking (clock.seconds.add (.ofInt (Duration.storeSeconds (issued.timeLeft clock.wall))))

/-- The store of a world in which an issued token is registered besides. -/
def addedTo (issued : RefreshToken) (user : Text) (world : World) : Store :=
  world.store.register world.clock (StoreKey.join user issued.id.text)
    (Duration.storeSeconds (issued.timeLeft world.clock.wall))

/-- Adding a token makes no difference to the other keys. -/
theorem isLive_addedTo_iff (issued : RefreshToken) (user : Text) (world : World) (clock : Clock)
    {key : Text} (differs : key ≠ StoreKey.join user issued.id.text) :
    (issued.addedTo user world).IsLive clock key ↔ world.store.IsLive clock key := by
  unfold addedTo Store.IsLive
  rw [Store.liveDeadline?_register_of_ne _ _ _ differs]

@[simp]
theorem store_registeredIn (issued : RefreshToken) (user : Text) (world : World) :
    (issued.registeredIn user world).store = issued.addedTo user world := rfl

@[simp]
theorem clock_registeredIn (issued : RefreshToken) (user : Text) (world : World) :
    (issued.registeredIn user world).clock = world.clock.advance world.duringPut.elapsed := rfl

end RefreshToken

namespace TokenService

open Call

/-! ### Small steps -/

theorem runIn_note (severity : Log.Severity) (message : String) (user : Text) (token : Option Text)
    (world : World) :
    ∃ reports, runIn (note severity message user token) world =
      (.ok (), world.withReports reports) :=
  ⟨_, rfl⟩

theorem runIn_ensureActive_of_expired {context : Context} {world : World}
    (expired : context.hasExpired world.clock world.raised = true) (step : String) :
    runIn (ensureActive context step) world =
      (.error (.service (.deadlinePassed step)), world) := by
  simp only [ensureActive, runIn_bind, runIn_get, if_pos expired, runIn_fail]

theorem runIn_ensureActive {context : Context} {world : World}
    (active : context.hasExpired world.clock world.raised = false) (step : String) :
    runIn (ensureActive context step) world = (.ok (), world) := by
  simp only [ensureActive, runIn_bind, runIn_get, active, Bool.false_eq_true, if_false, runIn_pure]

/-- Reporting how a signing went does not change how it went. -/
theorem runIn_noteSigning {α : Type} (user : Text) (kind : TokenKind)
    (issued : Except Failure α) (world : World) :
    ∃ reports, runIn (noteSigning user kind issued) world =
      (issued, world.withReports reports) := by
  cases issued with
  | ok value => exact ⟨world.reports, rfl⟩
  | error failure => cases failure <;> exact ⟨_, rfl⟩

theorem runIn_checkUser {user : Text} (part : StoreKey.isPart user = true) (world : World) :
    runIn (checkUser user) world = (.ok (), world) := by
  simp [checkUser, part]

theorem runIn_checkUser_of_not_isPart {user : Text} (noPart : StoreKey.isPart user = false)
    (world : World) :
    ∃ reports, runIn (checkUser user) world =
      (.error (.service .invalidUserId), world.withReports reports) := by
  obtain ⟨reports, noted⟩ := runIn_note .error "User id cannot key the revocation store" user none
    world
  refine ⟨reports, ?_⟩
  simp only [checkUser, noPart, Bool.not_false, if_true]
  rw [runIn_bind_of_ok noted, runIn_fail]

theorem runIn_checkPrevious {previous : Text}
    (wellFormed : (!previous.isEmpty && !TokenId.isCanonical previous) = false) (user : Text)
    (world : World) : runIn (checkPrevious user previous) world = (.ok (), world) := by
  simp only [checkPrevious, wellFormed, Bool.false_eq_true, if_false, runIn_pure]

theorem runIn_checkPrevious_of_malformed {previous : Text}
    (malformed : (!previous.isEmpty && !TokenId.isCanonical previous) = true) (user : Text)
    (world : World) :
    ∃ reports, runIn (checkPrevious user previous) world =
      (.error (.service (.invalidToken .refresh)), world.withReports reports) := by
  obtain ⟨reports, noted⟩ := runIn_note .info "Rejected malformed previous refresh token id" user
    (some previous) world
  refine ⟨reports, ?_⟩
  simp only [checkPrevious, malformed, if_true]
  rw [runIn_bind_of_ok noted, runIn_fail]

/-! ### Checking and minting -/

/-- The checks of the arguments of a call, and the identity token that it issues. -/
def admission (service : TokenService) (user : UserSnapshot) (previous : Text) (now : Int) :
    Except Failure IdentityToken :=
  if StoreKey.isPart user.id = false then .error (.service .invalidUserId)
  else if !previous.isEmpty && !TokenId.isCanonical previous then
    .error (.service (.invalidToken .refresh))
  else IdentityToken.issue user (some service.policy.privateKey) service.policy.identityLifetime now

theorem admission_eq_ok_iff {service : TokenService} {user : UserSnapshot} {previous : Text}
    {now : Int} {identity : IdentityToken} :
    service.admission user previous now = .ok identity ↔
      StoreKey.isPart user.id = true ∧
        (!previous.isEmpty && !TokenId.isCanonical previous) = false ∧
        IdentityToken.issue user (some service.policy.privateKey) service.policy.identityLifetime
          now = .ok identity := by
  unfold admission
  cases StoreKey.isPart user.id <;>
    cases (!previous.isEmpty && !TokenId.isCanonical previous) <;> simp

def mint (service : TokenService) (user : Text) (world : World) : Except Failure RefreshToken :=
  RefreshToken.issue user service.policy.secret world.nextId service.policy.refreshLifetime
    world.clock.wall

/-- The part of a call that needs no store. -/
def prepare (service : TokenService) (user : UserSnapshot) (previous : Text) :
    Call (IdentityToken × RefreshToken) := do
  checkUser user.id
  checkPrevious user.id previous
  let identity ← service.issueIdentity user
  let refresh ← service.issueRefresh user.id
  return (identity, refresh)

theorem runIn_issueIdentity (service : TokenService) (user : UserSnapshot) (world : World) :
    ∃ reports, runIn (service.issueIdentity user) world =
      (IdentityToken.issue user (some service.policy.privateKey) service.policy.identityLifetime
        world.clock.wall, world.withReports reports) :=
  runIn_noteSigning user.id .identity _ world

theorem runIn_issueRefresh (service : TokenService) (user : Text) (world : World) :
    ∃ reports, runIn (service.issueRefresh user) world =
      (service.mint user world,
        world.drawing.withReports reports) :=
  runIn_noteSigning user .refresh (service.mint user world)
    world.drawing

/-- A call whose arguments are refused draws no identifier. -/
theorem runIn_prepare_of_refused {service : TokenService} {user : UserSnapshot} {previous : Text}
    {world : World} {failure : Failure}
    (refused : service.admission user previous world.clock.wall = .error failure) :
    ∃ reports, runIn (service.prepare user previous) world =
      (.error failure, world.withReports reports) := by
  unfold admission at refused
  unfold prepare
  cases part : StoreKey.isPart user.id with
  | false =>
      rw [if_pos part, Except.error.injEq] at refused
      obtain ⟨reports, ran⟩ := runIn_checkUser_of_not_isPart part world
      exact ⟨reports, by rw [runIn_bind_of_error ran, refused]⟩
  | true =>
      rw [if_neg (by simp [part])] at refused
      rw [runIn_bind_of_ok (runIn_checkUser part world)]
      split at refused
      · next malformed =>
          rw [Except.error.injEq] at refused
          obtain ⟨reports, ran⟩ := runIn_checkPrevious_of_malformed malformed user.id world
          exact ⟨reports, by rw [runIn_bind_of_error ran, refused]⟩
      · next wellFormed =>
          rw [Bool.not_eq_true] at wellFormed
          rw [runIn_bind_of_ok (runIn_checkPrevious wellFormed user.id world)]
          obtain ⟨reports, ran⟩ := runIn_issueIdentity service user world
          rw [refused] at ran
          exact ⟨reports, runIn_bind_of_error ran _⟩

/-- A call whose arguments are admitted draws one identifier, even if signing fails. -/
theorem runIn_prepare_of_admitted {service : TokenService} {user : UserSnapshot}
    {previous : Text} {world : World} {identity : IdentityToken}
    (admitted : service.admission user previous world.clock.wall = .ok identity) :
    ∃ reports, runIn (service.prepare user previous) world =
      ((service.mint user.id world).map fun refresh => (identity, refresh),
        world.drawing.withReports reports) := by
  obtain ⟨part, wellFormed, issued⟩ := admission_eq_ok_iff.mp admitted
  obtain ⟨identityReports, identityRan⟩ := runIn_issueIdentity service user world
  rw [issued] at identityRan
  obtain ⟨reports, minted⟩ := runIn_issueRefresh service user.id
    (world.withReports identityReports)
  refine ⟨reports, ?_⟩
  unfold prepare
  rw [runIn_bind_of_ok (runIn_checkUser part world),
    runIn_bind_of_ok (runIn_checkPrevious wellFormed user.id world),
    runIn_bind_of_ok identityRan, runIn_bind, minted]
  have sameMint : service.mint user.id (world.withReports identityReports) =
      service.mint user.id world := rfl
  rw [sameMint]
  cases service.mint user.id world <;> rfl

/-! ### Settling with the store -/

/-- The part of a call that uses the store. -/
def settle (context : Context) (user previous : Text) (issued : RefreshToken) : Call Unit := do
  register context user issued
  if !previous.isEmpty then consumePrevious context user previous issued

/-- How the part of a call that uses the store goes: its outcome, and the world that it leaves
behind but for the reports.  After the first two ways nothing has been registered; after the third
and the last the call hands out its tokens. -/
inductive Settles (context : Context) (user previous : Text) (issued : RefreshToken)
    (world : World) : Except Failure Unit → World → Prop where
  | late (expired : context.hasExpired world.clock world.raised = true) :
      Settles context user previous issued world
        (.error (.service (.deadlinePassed "registering refresh token"))) world
  | unregistered {failure : Failure}
      (active : context.hasExpired world.clock world.raised = false)
      (fails : world.registeringFailure? (StoreKey.join user issued.id.text) = some failure) :
      Settles context user previous issued world (.error failure) world
  | begun (active : context.hasExpired world.clock world.raised = false)
      (registers : world.registeringFailure? (StoreKey.join user issued.id.text) = none)
      (first : previous = []) :
      Settles context user previous issued world (.ok ()) (issued.registeredIn user world)
  | orphaned (active : context.hasExpired world.clock world.raised = false)
      (registers : world.registeringFailure? (StoreKey.join user issued.id.text) = none)
      (follows : previous ≠ [])
      (expired : context.hasExpired (issued.registeredIn user world).clock
        (issued.registeredIn user world).raised = true) :
      Settles context user previous issued world
        (.error (.service (.deadlinePassed "deleting previous refresh token")))
        (issued.registeredIn user world)
  | unremoved (active : context.hasExpired world.clock world.raised = false)
      (registers : world.registeringFailure? (StoreKey.join user issued.id.text) = none)
      (follows : previous ≠ [])
      (stillActive : context.hasExpired (issued.registeredIn user world).clock
        (issued.registeredIn user world).raised = false)
      (fails : world.removingFails (StoreKey.join user previous) = true) :
      Settles context user previous issued world (.error (.service .storeUnavailable))
        ((issued.registeredIn user world).rollingBack user issued.id.text)
  | missing (active : context.hasExpired world.clock world.raised = false)
      (registers : world.registeringFailure? (StoreKey.join user issued.id.text) = none)
      (follows : previous ≠ [])
      (stillActive : context.hasExpired (issued.registeredIn user world).clock
        (issued.registeredIn user world).raised = false)
      (removes : world.removingFails (StoreKey.join user previous) = false)
      (absent : ¬(issued.registeredIn user world).IsLive user previous) :
      Settles context user previous issued world (.error (.service (.invalidToken .refresh)))
        (((issued.registeredIn user world).removing user previous).rollingBack user issued.id.text)
  | rotated (active : context.hasExpired world.clock world.raised = false)
      (registers : world.registeringFailure? (StoreKey.join user issued.id.text) = none)
      (follows : previous ≠ [])
      (stillActive : context.hasExpired (issued.registeredIn user world).clock
        (issued.registeredIn user world).raised = false)
      (removes : world.removingFails (StoreKey.join user previous) = false)
      (present : (issued.registeredIn user world).IsLive user previous) :
      Settles context user previous issued world (.ok ())
        ((issued.registeredIn user world).removing user previous)

theorem runIn_ensureStillWanted_of_expired {context : Context} {world : World}
    (expired : context.hasExpired world.clock world.raised = true) (user : Text)
    (issued : RefreshToken) :
    ∃ reports, runIn (ensureStillWanted context user issued) world =
      (.error (.service (.deadlinePassed "deleting previous refresh token")),
        world.withReports reports) := by
  obtain ⟨reports, noted⟩ := runIn_note .warning
    "Deadline hit after registering refresh token; leaving it orphaned" user
    (some issued.id.text) world
  refine ⟨reports, ?_⟩
  unfold ensureStillWanted
  rw [runIn_tryCatch, runIn_ensureActive_of_expired expired]
  show runIn (note .warning _ user _ >>= fun _ => throw _) world = _
  rw [runIn_bind_of_ok noted, runIn_throw]

theorem runIn_ensureStillWanted {context : Context} {world : World}
    (active : context.hasExpired world.clock world.raised = false) (user : Text)
    (issued : RefreshToken) :
    runIn (ensureStillWanted context user issued) world = (.ok (), world) := by
  unfold ensureStillWanted
  rw [runIn_tryCatch, runIn_ensureActive active]

section Settling

variable {user previous : Text} (userPart : StoreKey.isPart user = true) (context : Context)
  (issued : RefreshToken)

include userPart

theorem runIn_register_of_fails {world : World}
    {failure : Failure} (active : context.hasExpired world.clock world.raised = false)
    (fails : world.registeringFailure? (StoreKey.join user issued.id.text) = some failure) :
    ∃ reports, runIn (register context user issued) world =
      (.error failure, world.withReports reports) := by
  obtain ⟨reports, ran⟩ := StoreAccess.runIn_put_of_fails userPart (TokenId.isPart_text issued.id)
    (issued.timeLeft world.clock.wall) fails
  refine ⟨reports, ?_⟩
  unfold register
  rw [runIn_bind_of_ok (runIn_ensureActive active _), runIn_bind_of_ok (runIn_get world), ran]

theorem runIn_register {world : World}
    (active : context.hasExpired world.clock world.raised = false)
    (registers : world.registeringFailure? (StoreKey.join user issued.id.text) = none) :
    runIn (register context user issued) world = (.ok (), issued.registeredIn user world) := by
  unfold register
  rw [runIn_bind_of_ok (runIn_ensureActive active _), runIn_bind_of_ok (runIn_get world),
    StoreAccess.runIn_put userPart (TokenId.isPart_text issued.id) _ registers]
  rfl

/-- A failed roll-back is reported and otherwise forgotten. -/
theorem runIn_rollBack {world : World} (taken : world.store.takes user = true) :
    ∃ reports, runIn (rollBack user issued) world =
      (.ok (), (world.rollingBack user issued.id.text).withReports reports) := by
  unfold rollBack World.rollingBack
  cases fails : world.removingFails (StoreKey.join user issued.id.text) with
  | true =>
      obtain ⟨reports, ran⟩ := StoreAccess.runIn_delete_of_fails userPart
        (TokenId.isPart_text issued.id) fails
      obtain ⟨laterReports, noted⟩ := runIn_note .error
        "Could not roll back refresh token; it expires with its TTL" user (some issued.id.text)
        (world.withReports reports)
      refine ⟨laterReports, ?_⟩
      rw [runIn_tryCatch, runIn_bind_of_error ran]
      exact noted
  | false =>
      refine ⟨world.reports, ?_⟩
      rw [runIn_tryCatch, runIn_bind_of_ok
        (StoreAccess.runIn_delete userPart (TokenId.isPart_text issued.id) fails (by simp [taken]))]
      rfl

theorem runIn_removePrevious_of_fails (previousPart : StoreKey.isPart previous = true)
    {world : World} (taken : world.store.takes user = true)
    (fails : world.removingFails (StoreKey.join user previous) = true) :
    ∃ reports, runIn (removePrevious user previous issued) world =
      (.error (.service .storeUnavailable),
        (world.rollingBack user issued.id.text).withReports reports) := by
  obtain ⟨reports, ran⟩ := StoreAccess.runIn_delete_of_fails userPart previousPart fails
  obtain ⟨noteReports, noted⟩ := runIn_note .error "Could not delete previous refresh token" user
    (some previous) (world.withReports reports)
  have stillTaken : (world.withReports noteReports).store.takes user = true := taken
  obtain ⟨laterReports, rolledBack⟩ := runIn_rollBack userPart issued stillTaken
  refine ⟨laterReports, ?_⟩
  unfold removePrevious
  rw [runIn_tryCatch, ran]
  show runIn (note .error "Could not delete previous refresh token" user (some previous) >>=
    fun _ => rollBack user issued >>= fun _ => throw (.service .storeUnavailable)) _ = _
  rw [runIn_bind_of_ok noted, World.withReports_withReports, runIn_bind_of_ok rolledBack,
    runIn_throw, World.rollingBack_withReports, World.withReports_withReports]

theorem runIn_removePrevious (canonical : TokenId.isCanonical previous = true) {world : World}
    (taken : world.store.takes user = true)
    (removes : world.removingFails (StoreKey.join user previous) = false) :
    runIn (removePrevious user previous issued) world =
      (.ok (if world.IsLive user previous then 1 else 0), world.removing user previous) := by
  have bothTaken : world.store.takes (StoreKey.join user previous) = true := by
    rw [Store.takes_join, taken, world.store.takes_of_isEncodable
      (TokenId.isEncodable_of_isCanonical canonical), Bool.and_true]
  unfold removePrevious
  rw [runIn_tryCatch, StoreAccess.runIn_delete userPart
    (TokenId.isPart_of_isCanonical canonical) removes bothTaken]

theorem runIn_consumePrevious_of_absent (canonical : TokenId.isCanonical previous = true)
    {world : World} (taken : world.store.takes user = true)
    (active : context.hasExpired world.clock world.raised = false)
    (removes : world.removingFails (StoreKey.join user previous) = false)
    (absent : ¬world.IsLive user previous) :
    ∃ reports, runIn (consumePrevious context user previous issued) world =
      (.error (.service (.invalidToken .refresh)),
        ((world.removing user previous).rollingBack user issued.id.text).withReports reports) := by
  have removed := runIn_removePrevious userPart issued canonical taken removes
  rw [if_neg absent] at removed
  obtain ⟨reports, noted⟩ := runIn_note .info "Previous refresh token does not exist" user
    (some previous) (world.removing user previous)
  have stillTaken : ((world.removing user previous).withReports reports).store.takes user =
      true := by
    simp [World.removing, taken]
  obtain ⟨laterReports, rolledBack⟩ := runIn_rollBack userPart issued stillTaken
  refine ⟨laterReports, ?_⟩
  unfold consumePrevious
  rw [runIn_bind_of_ok (runIn_ensureStillWanted active user issued), runIn_bind_of_ok removed,
    if_pos rfl, runIn_bind_of_ok noted, runIn_bind_of_ok rolledBack, runIn_fail,
    World.rollingBack_withReports, World.withReports_withReports]

theorem runIn_consumePrevious_of_present (canonical : TokenId.isCanonical previous = true)
    {world : World} (taken : world.store.takes user = true)
    (active : context.hasExpired world.clock world.raised = false)
    (removes : world.removingFails (StoreKey.join user previous) = false)
    (present : world.IsLive user previous) :
    runIn (consumePrevious context user previous issued) world =
      (.ok (), world.removing user previous) := by
  have removed := runIn_removePrevious userPart issued canonical taken removes
  rw [if_pos present] at removed
  unfold consumePrevious
  rw [runIn_bind_of_ok (runIn_ensureStillWanted active user issued), runIn_bind_of_ok removed,
    if_neg Nat.one_ne_zero, runIn_pure]

/-- The part of a call that uses the store goes one of the listed ways. -/
theorem runIn_settle (wellFormed : previous ≠ [] → TokenId.isCanonical previous = true)
    (world : World) :
    ∃ outcome after reports, Settles context user previous issued world outcome after ∧
      runIn (settle context user previous issued) world = (outcome, after.withReports reports) := by
  unfold settle
  cases expiry : context.hasExpired world.clock world.raised with
  | true =>
      refine ⟨_, _, world.reports, .late expiry, ?_⟩
      unfold register
      rw [runIn_bind_of_error (runIn_bind_of_error (runIn_ensureActive_of_expired expiry _) _)]
      rfl
  | false =>
    cases registering : world.registeringFailure? (StoreKey.join user issued.id.text) with
    | some failure =>
        obtain ⟨reports, ran⟩ := runIn_register_of_fails userPart context issued expiry registering
        exact ⟨_, _, reports, .unregistered expiry registering, runIn_bind_of_error ran _⟩
    | none =>
      have taken : (issued.registeredIn user world).store.takes user = true := by
        have taken := (World.registeringFailure?_eq_none_iff.mp registering).2
        rw [Store.takes_join, Store.takes_id, Bool.and_true] at taken
        simp [RefreshToken.addedTo, taken]
      rw [runIn_bind_of_ok (runIn_register userPart context issued expiry registering)]
      by_cases first : previous = []
      · refine ⟨_, _, (issued.registeredIn user world).reports,
          .begun expiry registering first, ?_⟩
        rw [if_neg (by simp [first]), runIn_pure, World.withReports_reports]
      · rw [if_pos (by simpa using first)]
        have canonical := wellFormed first
        cases laterExpiry : context.hasExpired (issued.registeredIn user world).clock
            (issued.registeredIn user world).raised with
        | true =>
            obtain ⟨reports, ran⟩ := runIn_ensureStillWanted_of_expired laterExpiry user issued
            refine ⟨_, _, reports, .orphaned expiry registering first laterExpiry, ?_⟩
            unfold consumePrevious
            rw [runIn_bind_of_error ran]
        | false =>
          cases removing : world.removingFails (StoreKey.join user previous) with
          | true =>
              have stillFails : (issued.registeredIn user world).removingFails
                  (StoreKey.join user previous) = true := removing
              obtain ⟨reports, ran⟩ := runIn_removePrevious_of_fails userPart issued
                (TokenId.isPart_of_isCanonical canonical) taken stillFails
              refine ⟨_, _, reports, .unremoved expiry registering first laterExpiry removing, ?_⟩
              unfold consumePrevious
              rw [runIn_bind_of_ok (runIn_ensureStillWanted laterExpiry user issued),
                runIn_bind_of_error ran]
          | false =>
            by_cases live : (issued.registeredIn user world).IsLive user previous
            · refine ⟨_, _, ((issued.registeredIn user world).removing user previous).reports,
                .rotated expiry registering first laterExpiry removing live, ?_⟩
              rw [runIn_consumePrevious_of_present userPart context issued canonical taken
                laterExpiry removing live, World.withReports_reports]
            · obtain ⟨reports, ran⟩ :=
                runIn_consumePrevious_of_absent userPart context issued canonical
                taken laterExpiry removing live
              exact ⟨_, _, reports, .missing expiry registering first laterExpiry removing live,
                ran⟩

end Settling

/-- Earlier reports make no difference to how a call goes. -/
theorem Settles.of_withReports {context : Context} {user previous : Text} {issued : RefreshToken}
    {world after : World} {reports : List Log.Event} {outcome : Except Failure Unit}
    (settled : Settles context user previous issued (world.withReports reports) outcome after) :
    ∃ unreported, Settles context user previous issued world outcome unreported ∧
      ∃ later, after = unreported.withReports later := by
  cases settled with
  | late expired => exact ⟨world, .late expired, reports, rfl⟩
  | unregistered active fails => exact ⟨world, .unregistered active fails, reports, rfl⟩
  | begun active registers first =>
      exact ⟨_, .begun active registers first, _, RefreshToken.registeredIn_withReports ..⟩
  | orphaned active registers follows expired =>
      exact ⟨_, .orphaned active registers follows expired, _,
        RefreshToken.registeredIn_withReports ..⟩
  | unremoved active registers follows stillActive fails =>
      refine ⟨_, .unremoved active registers follows stillActive fails, reports, ?_⟩
      rw [RefreshToken.registeredIn_withReports, World.rollingBack_withReports]
  | missing active registers follows stillActive removes absent =>
      refine ⟨_, .missing active registers follows stillActive removes absent, reports, ?_⟩
      rw [RefreshToken.registeredIn_withReports, World.removing_withReports,
        World.rollingBack_withReports]
  | rotated active registers follows stillActive removes present =>
      refine ⟨_, .rotated active registers follows stillActive removes present, reports, ?_⟩
      rw [RefreshToken.registeredIn_withReports, World.removing_withReports]

theorem Settles.frame {context : Context} {user previous : Text} {issued : RefreshToken}
    {world after : World} {outcome : Except Failure Unit}
    (settles : Settles context user previous issued world outcome after) :
    World.Frame world after := by
  have registered : World.Frame world (issued.registeredIn user world) :=
    world.frame_registering user issued.id.text (issued.timeLeft world.clock.wall)
  cases settles with
  | late => exact .refl world
  | unregistered => exact .refl world
  | begun => exact registered
  | orphaned => exact registered
  | unremoved => exact registered.trans (World.frame_rollingBack _ _ _)
  | missing =>
      exact (registered.trans (World.frame_removing _ _ _)).trans (World.frame_rollingBack _ _ _)
  | rotated => exact registered.trans (World.frame_removing _ _ _)

/-- The ways of settling exclude one another, since each finds something that the others do not. -/
theorem Settles.unique {context : Context} {user previous : Text} {issued : RefreshToken}
    {world after other : World} {outcome result : Except Failure Unit}
    (first : Settles context user previous issued world outcome after)
    (second : Settles context user previous issued world result other) :
    outcome = result ∧ after = other := by
  cases first <;> cases second <;> first | exact ⟨rfl, rfl⟩ | simp_all

/-! ### The whole call -/

/-- How a call for a pair ends: its outcome, and the world that it leaves behind but for the
reports. -/
inductive Ends (service : TokenService) (context : Option Context) (user : UserSnapshot)
    (previous : Text) (world : World) : Except Failure TokenPair → World → Prop where
  | refused {failure : Failure}
      (refusal : service.admission user previous world.clock.wall = .error failure) :
      Ends service context user previous world (.error failure) world
  | unminted {identity : IdentityToken} {failure : Failure}
      (admitted : service.admission user previous world.clock.wall = .ok identity)
      (failed : service.mint user.id world = .error failure) :
      Ends service context user previous world (.error failure) world.drawing
  | settled {identity : IdentityToken} {refresh : RefreshToken} {outcome : Except Failure Unit}
      {after : World}
      (admitted : service.admission user previous world.clock.wall = .ok identity)
      (minted : service.mint user.id world = .ok refresh)
      (settles : Settles (service.resolve context) user.id previous refresh world.drawing outcome
        after) :
      Ends service context user previous world (outcome.map fun _ => ⟨identity, refresh⟩) after

theorem Ends.unique {service : TokenService} {context : Option Context} {user : UserSnapshot}
    {previous : Text} {world after other : World} {outcome result : Except Failure TokenPair}
    (first : Ends service context user previous world outcome after)
    (second : Ends service context user previous world result other) :
    outcome = result ∧ after = other := by
  cases first with
  | refused refusal =>
      cases second with
      | refused again =>
          rw [refusal, Except.error.injEq] at again
          exact ⟨congrArg Except.error again, rfl⟩
      | unminted admitted => simp [refusal] at admitted
      | settled admitted => simp [refusal] at admitted
  | unminted admitted failed =>
      cases second with
      | refused refusal => simp [admitted] at refusal
      | unminted _ again =>
          rw [failed, Except.error.injEq] at again
          exact ⟨congrArg Except.error again, rfl⟩
      | settled _ minted => simp [failed] at minted
  | settled admitted minted settles =>
      cases second with
      | refused refusal => simp [admitted] at refusal
      | unminted _ failed => simp [minted] at failed
      | settled again alsoMinted alsoSettles =>
          rw [admitted, Except.ok.injEq] at again
          rw [minted, Except.ok.injEq] at alsoMinted
          subst again alsoMinted
          obtain ⟨rfl, rfl⟩ := settles.unique alsoSettles
          exact ⟨rfl, rfl⟩

/-- But for the drawn identifier, a call changes of the world only what its store accesses do. -/
theorem Ends.frame {service : TokenService} {context : Option Context} {user : UserSnapshot}
    {previous : Text} {world after : World} {outcome : Except Failure TokenPair}
    (ends : Ends service context user previous world outcome after) :
    World.Frame world after ∨ World.Frame world.drawing after := by
  cases ends with
  | refused => exact .inl (.refl world)
  | unminted => exact .inr (.refl world.drawing)
  | settled admitted minted settles => exact .inr settles.frame

/-- An admitted user is a part of a key, and an admitted previous token is canonical. -/
theorem isPart_of_admitted {service : TokenService} {user : UserSnapshot} {previous : Text}
    {now : Int} {identity : IdentityToken}
    (admitted : service.admission user previous now = .ok identity) :
    StoreKey.isPart user.id = true ∧ (previous ≠ [] → TokenId.isCanonical previous = true) := by
  obtain ⟨userPart, wellFormed, -⟩ := admission_eq_ok_iff.mp admitted
  refine ⟨userPart, fun follows => ?_⟩
  simpa [follows] using wellFormed

theorem newPair_eq (service : TokenService) (context : Option Context) (user : UserSnapshot)
    (previous : Text) :
    service.newPair context user previous = (do
      let (identity, refresh) ← service.prepare user previous
      settle (service.resolve context) user.id previous refresh
      note .debug "Issued token pair" user.id (some refresh.id.text)
      return ⟨identity, refresh⟩) := by
  unfold newPair prepare settle
  simp only [bind_assoc, pure_bind]
  cases previous.isEmpty <;> rfl

/-- Every call for a pair ends in one of the listed ways. -/
theorem runIn_newPair (service : TokenService) (context : Option Context) (user : UserSnapshot)
    (previous : Text) (world : World) :
    ∃ outcome after reports, Ends service context user previous world outcome after ∧
      runIn (service.newPair context user previous) world =
        (outcome, after.withReports reports) := by
  rw [newPair_eq]
  cases admission : service.admission user previous world.clock.wall with
  | error failure =>
      obtain ⟨reports, ran⟩ := runIn_prepare_of_refused admission
      exact ⟨_, _, reports, .refused admission, runIn_bind_of_error ran _⟩
  | ok identity =>
      obtain ⟨reports, ran⟩ := runIn_prepare_of_admitted admission
      cases minting : service.mint user.id world with
      | error failure =>
          rw [minting] at ran
          exact ⟨_, _, reports, .unminted admission minting, runIn_bind_of_error ran _⟩
      | ok refresh =>
          rw [minting] at ran
          obtain ⟨userPart, canonical⟩ := isPart_of_admitted admission
          obtain ⟨outcome, reported, laterReports, settles, settled⟩ :=
            runIn_settle userPart (service.resolve context) refresh canonical
              (world.drawing.withReports reports)
          obtain ⟨after, settlesUnreported, earlier, rfl⟩ := settles.of_withReports
          rw [runIn_bind_of_ok ran]
          cases outcome with
          | error failure =>
              exact ⟨_, after, laterReports, .settled admission minting settlesUnreported,
                runIn_bind_of_error settled _⟩
          | ok value =>
              obtain ⟨lastReports, noted⟩ := runIn_note .debug "Issued token pair" user.id
                (some refresh.id.text) ((after.withReports earlier).withReports laterReports)
              refine ⟨_, after, lastReports, .settled admission minting settlesUnreported, ?_⟩
              rw [runIn_bind_of_ok settled, runIn_bind_of_ok noted, runIn_pure]
              rfl

/-- A call does what any way tells in which it can end. -/
theorem runIn_newPair_of_ends {service : TokenService} {context : Option Context}
    {user : UserSnapshot} {previous : Text} {world after : World}
    {outcome : Except Failure TokenPair}
    (ends : Ends service context user previous world outcome after) :
    ∃ reports, runIn (service.newPair context user previous) world =
      (outcome, after.withReports reports) := by
  obtain ⟨result, other, reports, endsSo, ran⟩ := runIn_newPair service context user previous world
  obtain ⟨rfl, rfl⟩ := ends.unique endsSo
  exact ⟨reports, ran⟩

/-! ### A sample -/

/-- A key of 512 bits. -/
def sampleKey : Rsa.PrivateKey where
  modulus := 0xc83f22b1c33c55c0b324e00d602a2a7cc18018451c323cae11fa3727a1287055 <<< 256 +
    0x8f494289af69d53d282c5b79b08ed523b860d2eeea7038c7c82b5c3e982f8661
  publicExponent := 65537
  privateExponent := 0xa0c517ccd2abf9493a4b2bdb714ec947da6f468d0e0343769a1662fbdd46c350 <<< 256 +
    0x71372f0d8894dbfa40d17a2991b37c9cd754be4769fdcfdf2303e303390ff001

/-- A service whose identity tokens live for a minute and whose refresh tokens live for an hour. -/
def sample : TokenService where
  policy :=
    { privateKey := sampleKey
      publicKey := sampleKey.publicKey
      secret := "a secret of the service"
      identityLifetime := 60000000
      refreshLifetime := 3600000000 }

/-- A service whose refresh tokens live for two seconds. -/
def twoSeconds : TokenService :=
  { sample with policy := { sample.policy with refreshLifetime := 2000000 } }

end TokenService

/-- A world without entries. -/
def World.sample : World where
  clock := ⟨1700000000000000, 0⟩
  store := .memory .empty

/-- The same world with its ticking clock at a millisecond from which two seconds are rounded up. -/
def World.uneven : World :=
  { World.sample with clock := ⟨1700000000000000, 131⟩ }

end TokenAuthority
