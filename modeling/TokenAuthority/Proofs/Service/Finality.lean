import TokenAuthority.Proofs.Service.Deadline
import TokenAuthority.Proofs.Service.Plan
import TokenAuthority.Proofs.Service.Run

/-!
Deadlines that are final.

Each call of the service follows a plan in which every command to the store but a roll-back comes
right after a check that the context of the call has not expired.  A context that has expired stays
so, however the service goes on, and from then on a call with it fails before it issues a command.
-/

namespace TokenAuthority

namespace TokenService

open Call

/-! ### Steps that leave the store alone -/

theorem isQuiet_note (severity : Log.Severity) (message : String) (user : Text)
    (token : Option Text) : IsQuiet (note severity message user token) :=
  isQuiet_report _

theorem isQuiet_ensureActive (context : Context) (step : String) :
    IsQuiet (ensureActive context step) := by
  unfold ensureActive
  apply isQuiet_get_bind
  · intro world
    split
    · exact isQuiet_throw _
    · exact isQuiet_pure ()
  · intro world store
    rfl

theorem isQuiet_refuse : IsQuiet (Call.fail (.invalidToken .refresh) : Call Unit) :=
  isQuiet_fail _

theorem isQuiet_checkUser (user : Text) : IsQuiet (checkUser user) := by
  unfold checkUser
  split
  · exact (isQuiet_note _ _ _ _).bind fun _ => isQuiet_fail _
  · exact isQuiet_pure ()

theorem isQuiet_checkPrevious (user previous : Text) : IsQuiet (checkPrevious user previous) := by
  unfold checkPrevious
  split
  · exact (isQuiet_note _ _ _ _).bind fun _ => isQuiet_fail _
  · exact isQuiet_pure ()

theorem isQuiet_noteSigning {α : Type} (user : Text) (kind : TokenKind)
    (issued : Except Failure α) : IsQuiet (noteSigning user kind issued) := by
  cases issued with
  | ok value => exact isQuiet_pure value
  | error failure =>
      cases failure with
      | service error => exact (isQuiet_report _).bind fun _ => isQuiet_throw _
      | _ => exact (isQuiet_pure ()).bind fun _ => isQuiet_throw _

theorem isQuiet_issueIdentity (service : TokenService) (user : UserSnapshot) :
    IsQuiet (service.issueIdentity user) := by
  apply isQuiet_get_bind
  · exact fun world => isQuiet_noteSigning user.id .identity _
  · intro world store
    rfl

theorem isQuiet_issueRefresh (service : TokenService) (user : Text) :
    IsQuiet (service.issueRefresh user) := by
  apply isQuiet_drawTokenId.bind
  intro id
  apply isQuiet_get_bind
  · exact fun world => isQuiet_noteSigning user .refresh _
  · intro world store
    rfl

theorem isQuiet_prepare (service : TokenService) (user : UserSnapshot) (previous : Text) :
    IsQuiet (service.prepare user previous) := by
  apply (isQuiet_checkUser user.id).bind
  intro _
  apply (isQuiet_checkPrevious user.id previous).bind
  intro _
  apply (service.isQuiet_issueIdentity user).bind
  intro identity
  apply (service.isQuiet_issueRefresh user.id).bind
  exact fun refresh => isQuiet_pure _

theorem isQuiet_ensureStillWanted (context : Context) (user : Text) (issued : RefreshToken) :
    IsQuiet (ensureStillWanted context user issued) := by
  apply (isQuiet_ensureActive context _).tryCatch
  intro failure
  exact (isQuiet_note _ _ _ _).bind fun _ => isQuiet_throw failure

theorem isQuiet_judge {α : Type} (kind : TokenKind) (verdict : Verdict α) :
    IsQuiet (judge kind verdict) := by
  cases verdict with
  | trusted value => exact isQuiet_pure value
  | untrusted => exact (isQuiet_report _).bind fun _ => isQuiet_fail _
  | broken fault => exact (isQuiet_report _).bind fun _ => isQuiet_fail _

theorem isQuiet_validate {α : Type} (service : TokenService) (context : Option Context)
    (kind : TokenKind) (check : Int → Verdict α) :
    IsQuiet (service.validate context kind check) := by
  apply (isQuiet_ensureActive _ _).bind
  intro _
  apply isQuiet_get_bind
  · exact fun world => isQuiet_judge kind _
  · intro world store
    rfl

theorem isQuiet_validateIdentity (service : TokenService) (context : Option Context)
    (token : Text) : IsQuiet (service.validateIdentity context token) :=
  service.isQuiet_validate context .identity _

theorem isQuiet_validateRefresh (service : TokenService) (context : Option Context)
    (token : Text) : IsQuiet (service.validateRefresh context token) :=
  service.isQuiet_validate context .refresh _

/-- The time that the wall clock tells. -/
def now : Call Int := do
  return (← get).clock.wall

theorem isQuiet_now : IsQuiet now := by
  apply isQuiet_get_bind
  · exact fun world => isQuiet_pure _
  · intro world store
    rfl

/-- A call that is found active goes on in the same world. -/
theorem of_runIn_ensureActive {context : Context} {step : String} {world after : World}
    (ran : runIn (ensureActive context step) world = (.ok (), after)) :
    context.hasExpired world.clock world.raised = false ∧ after = world := by
  cases expiry : context.hasExpired world.clock world.raised with
  | true =>
      rw [runIn_ensureActive_of_expired expiry] at ran
      cases ran
  | false =>
      rw [runIn_ensureActive expiry] at ran
      cases ran
      exact ⟨rfl, rfl⟩

theorem of_runIn_ensureStillWanted {context : Context} {user : Text} {issued : RefreshToken}
    {world after : World}
    (ran : runIn (ensureStillWanted context user issued) world = (.ok (), after)) :
    context.hasExpired world.clock world.raised = false ∧ after = world := by
  cases expiry : context.hasExpired world.clock world.raised with
  | true =>
      obtain ⟨reports, late⟩ := runIn_ensureStillWanted_of_expired expiry user issued
      rw [late] at ran
      cases ran
  | false =>
      rw [runIn_ensureStillWanted expiry] at ran
      cases ran
      exact ⟨rfl, rfl⟩

end TokenService

/-! ### The plans of the service -/

namespace Plan

open Call TokenService

def register (context : Context) (user : Text) (issued : RefreshToken) : Plan Unit := do
  step (ensureActive context "registering refresh token") (isQuiet_ensureActive _ _)
  let now ← step now isQuiet_now
  issue (.put user issued.id.text (issued.timeLeft now))

/-- What is done when a token could not be rolled back. -/
def afterNoRollBack (user : Text) (issued : RefreshToken) (failure : Failure) : Plan Unit :=
  match failure with
  | .service _ =>
      step (note .error "Could not roll back refresh token; it expires with its TTL" user
        (some issued.id.text)) (isQuiet_note _ _ _ _)
  | _ => step (throw failure) (isQuiet_throw failure)

def rollBack (user : Text) (issued : RefreshToken) : Plan Unit :=
  handle
    (do
      let _ ← issue (.rollBack user issued.id.text))
    (afterNoRollBack user issued)

/-- What is done when the previous token could not be removed. -/
def afterNoRemoval (user previous : Text) (issued : RefreshToken) (failure : Failure) :
    Plan Nat :=
  match failure with
  | .service _ => do
      step (note .error "Could not delete previous refresh token" user (some previous))
        (isQuiet_note _ _ _ _)
      rollBack user issued
      step (throw failure) (isQuiet_throw failure)
  | _ => step (throw failure) (isQuiet_throw failure)

def removePrevious (user previous : Text) (issued : RefreshToken) : Plan Nat :=
  handle (issue (.consume user previous)) (afterNoRemoval user previous issued)

/-- What is done once the removal of the previous token has told how many there were. -/
def afterRemoval (user previous : Text) (issued : RefreshToken) (removed : Nat) : Plan Unit := do
  if removed = 0 then
    step (note .info "Previous refresh token does not exist" user (some previous))
      (isQuiet_note _ _ _ _)
    rollBack user issued
    step (Call.fail (.invalidToken .refresh)) isQuiet_refuse

def consumePrevious (context : Context) (user previous : Text) (issued : RefreshToken) :
    Plan Unit := do
  step (ensureStillWanted context user issued) (isQuiet_ensureStillWanted _ _ _)
  let removed ← removePrevious user previous issued
  afterRemoval user previous issued removed

def settle (context : Context) (user previous : Text) (issued : RefreshToken) : Plan Unit := do
  register context user issued
  if !previous.isEmpty then consumePrevious context user previous issued

def newPair (service : TokenService) (context : Option Context) (user : UserSnapshot)
    (previous : Text) : Plan TokenPair := do
  let (identity, refresh) ← step (service.prepare user previous) (service.isQuiet_prepare _ _)
  settle (service.resolve context) user.id previous refresh
  step (note .debug "Issued token pair" user.id (some refresh.id.text)) (isQuiet_note _ _ _ _)
  return ⟨identity, refresh⟩

def validateIdentity (service : TokenService) (context : Option Context) (token : Text) :
    Plan UserSnapshot :=
  step (service.validateIdentity context token) (service.isQuiet_validateIdentity context token)

def validateRefresh (service : TokenService) (context : Option Context) (token : Text) :
    Plan RefreshClaims :=
  step (service.validateRefresh context token) (service.isQuiet_validateRefresh context token)

def signOut (service : TokenService) (context : Option Context) (user : Text) : Plan Nat := do
  step (checkUser user) (isQuiet_checkUser user)
  step (ensureActive (service.resolve context) "revoking refresh tokens")
    (isQuiet_ensureActive _ _)
  let count : Nat ← issue (.revokeAll user)
  step
    (Call.report
      { severity := .info, logger, message := "Signed out user",
        subject := [("user_id", .text user), ("count", .int count)] })
    (isQuiet_report _)
  return count

theorem run_rollBack (user : Text) (issued : RefreshToken) :
    (rollBack user issued).run = TokenService.rollBack user issued := by
  apply congrArg (MonadExcept.tryCatch _)
  funext failure
  cases failure <;> rfl

theorem run_removePrevious (user previous : Text) (issued : RefreshToken) :
    (removePrevious user previous issued).run =
      TokenService.removePrevious user previous issued := by
  apply congrArg (MonadExcept.tryCatch _)
  funext failure
  cases failure with
  | service error =>
      show (note _ _ _ _ >>= fun _ => (rollBack user issued).run >>= fun _ => throw _) = _
      rw [run_rollBack]
  | _ => rfl

theorem run_consumePrevious (context : Context) (user previous : Text) (issued : RefreshToken) :
    (consumePrevious context user previous issued).run =
      TokenService.consumePrevious context user previous issued := by
  unfold consumePrevious TokenService.consumePrevious
  apply bind_congr
  intro _
  rw [← run_removePrevious]
  apply bind_congr
  intro removed
  cases removed with
  | zero =>
      show (note _ _ _ _ >>= fun _ => (rollBack user issued).run >>= fun _ => Call.fail _) = _
      rw [run_rollBack]
      rfl
  | succ removed => rfl

theorem run_settle (context : Context) (user previous : Text) (issued : RefreshToken) :
    (settle context user previous issued).run =
      TokenService.settle context user previous issued := by
  unfold settle TokenService.settle
  apply bind_congr
  intro _
  split
  · exact run_consumePrevious context user previous issued
  · rfl

theorem run_newPair (service : TokenService) (context : Option Context) (user : UserSnapshot)
    (previous : Text) :
    (newPair service context user previous).run = service.newPair context user previous := by
  rw [newPair_eq]
  apply bind_congr
  rintro ⟨identity, refresh⟩
  show ((settle _ user.id previous refresh).run >>= fun _ => _) = _
  rw [run_settle]
  rfl

theorem run_signOut (service : TokenService) (context : Option Context) (user : Text) :
    (signOut service context user).run = service.signOut context user := rfl

/-! ### Guards -/

section Guards

variable {context : Context} {world : World}

theorem isGuardedIn_register (user : Text) (issued : RefreshToken) :
    (register context user issued).IsGuardedIn context world := by
  apply (isGuardedIn_step _ _ _ _).bind
  intro _ checked ran
  obtain ⟨active, rfl⟩ := of_runIn_ensureActive ran
  apply (isGuardedIn_step _ _ _ _).bind
  intro now after told
  cases told
  exact isGuardedIn_issue active _

theorem isGuardedIn_rollBack (user : Text) (issued : RefreshToken) :
    (rollBack user issued).IsGuardedIn context world := by
  apply IsGuardedIn.handle
  · apply (isGuardedIn_issue_rollBack _ _ _ _).bind
    intro count after _
    exact isGuardedIn_step _ _ _ _
  · intro failure after _
    cases failure with
    | service error => exact isGuardedIn_step _ _ _ _
    | _ => exact isGuardedIn_step _ _ _ _

theorem isGuardedIn_removePrevious
    (active : context.hasExpired world.clock world.raised = false) (user previous : Text)
    (issued : RefreshToken) :
    (removePrevious user previous issued).IsGuardedIn context world := by
  apply (isGuardedIn_issue active _).handle
  intro failure after _
  cases failure with
  | service error =>
      apply (isGuardedIn_step _ _ _ _).bind
      intro _ noted _
      apply (isGuardedIn_rollBack user issued).bind
      intro _ rolledBack _
      exact isGuardedIn_step _ _ _ _
  | _ => exact isGuardedIn_step _ _ _ _

theorem isGuardedIn_consumePrevious (user previous : Text) (issued : RefreshToken) :
    (consumePrevious context user previous issued).IsGuardedIn context world := by
  apply (isGuardedIn_step _ _ _ _).bind
  intro _ checked ran
  obtain ⟨active, rfl⟩ := of_runIn_ensureStillWanted ran
  apply (isGuardedIn_removePrevious active user previous issued).bind
  intro removed after _
  unfold afterRemoval
  split
  · apply (isGuardedIn_step _ _ _ _).bind
    intro _ noted _
    apply (isGuardedIn_rollBack user issued).bind
    intro _ rolledBack _
    exact isGuardedIn_step _ _ _ _
  · exact isGuardedIn_step _ _ _ _

theorem isGuardedIn_settle (user previous : Text) (issued : RefreshToken) :
    (settle context user previous issued).IsGuardedIn context world := by
  apply (isGuardedIn_register user issued).bind
  intro _ registered _
  split
  · exact isGuardedIn_consumePrevious user previous issued
  · exact isGuardedIn_step _ _ _ _

end Guards

theorem failsIdle_ensureActive {context : Context} {world : World}
    (expired : context.hasExpired world.clock world.raised = true) (action : String) :
    (step (ensureActive context action) (isQuiet_ensureActive context action)).FailsIdle world :=
  failsIdle_step _ (runIn_ensureActive_of_expired expired action)

section Calls

variable (service : TokenService) (context : Option Context) {world : World}

theorem isGuardedIn_newPair (user : UserSnapshot) (previous : Text) :
    (newPair service context user previous).IsGuardedIn (service.resolve context) world := by
  apply (isGuardedIn_step _ _ _ _).bind
  rintro ⟨identity, refresh⟩ prepared _
  apply (isGuardedIn_settle user.id previous refresh).bind
  intro _ settled _
  apply (isGuardedIn_step _ _ _ _).bind
  intro _ noted _
  exact isGuardedIn_step _ _ _ _

theorem isGuardedIn_signOut (user : Text) :
    (signOut service context user).IsGuardedIn (service.resolve context) world := by
  apply (isGuardedIn_step _ _ _ _).bind
  intro _ admitted _
  apply (isGuardedIn_step _ _ _ _).bind
  intro _ checked ran
  obtain ⟨active, rfl⟩ := of_runIn_ensureActive ran
  apply (isGuardedIn_issue active _).bind
  intro count after _
  apply (isGuardedIn_step _ _ _ _).bind
  intro _ reported _
  exact isGuardedIn_step _ _ _ _

/-! ### Calls of which the context has expired -/

variable (expired : (service.resolve context).hasExpired world.clock world.raised = true)

include expired

theorem failsIdle_newPair (user : UserSnapshot) (previous : Text) :
    (newPair service context user previous).FailsIdle world := by
  apply failsIdle_step_bind
  rintro ⟨identity, refresh⟩ prepared ran
  obtain ⟨reports, drawn, rfl⟩ := (service.isQuiet_prepare user previous world).exists_eq ran
  apply FailsIdle.bind
  apply FailsIdle.bind
  apply FailsIdle.bind
  apply failsIdle_ensureActive
  exact expired

theorem failsIdle_signOut (user : Text) : (signOut service context user).FailsIdle world := by
  apply failsIdle_step_bind
  intro _ admitted ran
  obtain ⟨reports, drawn, rfl⟩ := (isQuiet_checkUser user world).exists_eq ran
  apply FailsIdle.bind
  apply failsIdle_ensureActive
  exact expired

theorem failsIdle_validateIdentity (token : Text) :
    (validateIdentity service context token).FailsIdle world :=
  failsIdle_step _ (runIn_bind_of_error (runIn_ensureActive_of_expired expired _) _)

theorem failsIdle_validateRefresh (token : Text) :
    (validateRefresh service context token).FailsIdle world :=
  failsIdle_step _ (runIn_bind_of_error (runIn_ensureActive_of_expired expired _) _)

end Calls

end Plan

/-- A call of the service, but for its context. -/
inductive ServiceCall where
  | newPair (user : UserSnapshot) (previous : Text)
  | validateIdentity (token : Text)
  | validateRefresh (token : Text)
  | signOut (user : Text)

namespace ServiceCall

open Call

/-- What a call returns that succeeds. -/
def Value : ServiceCall → Type
  | .newPair .. => TokenPair
  | .validateIdentity _ => UserSnapshot
  | .validateRefresh _ => RefreshClaims
  | .signOut _ => Nat

variable (service : TokenService) (context : Option Context)

def perform : (call : ServiceCall) → Call call.Value
  | .newPair user previous => service.newPair context user previous
  | .validateIdentity token => service.validateIdentity context token
  | .validateRefresh token => service.validateRefresh context token
  | .signOut user => service.signOut context user

def plan : (call : ServiceCall) → Plan call.Value
  | .newPair user previous => .newPair service context user previous
  | .validateIdentity token => .validateIdentity service context token
  | .validateRefresh token => .validateRefresh service context token
  | .signOut user => .signOut service context user

/-- What a plan does is the call. -/
theorem run_plan (call : ServiceCall) : (call.plan service context).run =
    call.perform service context := by
  cases call with
  | newPair user previous => exact Plan.run_newPair service context user previous
  | validateIdentity token => rfl
  | validateRefresh token => rfl
  | signOut user => exact Plan.run_signOut service context user

theorem isGuardedIn_plan (call : ServiceCall) (world : World) :
    (call.plan service context).IsGuardedIn (service.resolve context) world := by
  cases call with
  | newPair user previous => exact Plan.isGuardedIn_newPair service context user previous
  | validateIdentity token => exact Plan.isGuardedIn_step _ _ _ _
  | validateRefresh token => exact Plan.isGuardedIn_step _ _ _ _
  | signOut user => exact Plan.isGuardedIn_signOut service context user

theorem failsIdle_plan {world : World}
    (expired : (service.resolve context).hasExpired world.clock world.raised = true)
    (call : ServiceCall) : (call.plan service context).FailsIdle world := by
  cases call with
  | newPair user previous => exact Plan.failsIdle_newPair service context expired user previous
  | validateIdentity token => exact Plan.failsIdle_validateIdentity service context expired token
  | validateRefresh token => exact Plan.failsIdle_validateRefresh service context expired token
  | signOut user => exact Plan.failsIdle_signOut service context expired user

end ServiceCall

/-! ### Runs -/

/-- Whether a world is later than another: its clock has not gone back, and no signal is gone. -/
structure World.IsLater (before after : World) : Prop where
  ticks : before.clock.ticks ≤ after.clock.ticks
  raised : before.raised ⊆ after.raised

namespace World

theorem IsLater.trans {first second third : World} (left : first.IsLater second)
    (right : second.IsLater third) : first.IsLater third :=
  ⟨Int.le_trans left.ticks right.ticks, List.Subset.trans left.raised right.raised⟩

theorem isKept_isLater : IsKept IsLater where
  trans := IsLater.trans
  same _ _ _ _ := ⟨Int.le_refl _, List.Subset.refl _⟩

theorem IsLater.hasExpired {before after : World} (later : before.IsLater after)
    {context : Context} (expired : context.hasExpired before.clock before.raised = true) :
    context.hasExpired after.clock after.raised = true :=
  Context.hasExpired_of_later later.ticks later.raised expired

/-- Whether a world is later than another unless the clock is set back meanwhile. -/
structure GoesOn (before after : World) : Prop where
  duringPut : after.duringPut = before.duringPut
  isLater : 0 ≤ before.duringPut.elapsed → before.IsLater after

theorem isKept_goesOn : IsKept GoesOn where
  trans left right :=
    { duringPut := right.duringPut.trans left.duringPut
      isLater := by
        intro onwards
        apply (left.isLater onwards).trans
        apply right.isLater
        rwa [left.duringPut] }
  same _ _ _ _ := ⟨rfl, fun _ => ⟨Int.le_refl _, List.Subset.refl _⟩⟩

theorem goesOn_disturb : Call.Keeps GoesOn (modify StoreAccess.disturb) :=
  fun _ => ⟨rfl, fun onwards => ⟨Int.le_add_of_nonneg_right onwards, List.subset_append_right _ _⟩⟩

end World

namespace TokenService

open Call

variable (service : TokenService)

theorem keeps_signOut {relation : World → World → Prop} (kept : World.IsKept relation)
    (context : Option Context) (user : Text) : (service.signOut context user).Keeps relation := by
  apply ((isQuiet_checkUser user).keeps kept).bind kept
  intro _
  apply ((isQuiet_ensureActive _ _).keeps kept).bind kept
  intro _
  apply (StoreAccess.keeps_deleteAll kept user).bind kept
  intro count
  exact ((isQuiet_report _).keeps kept).bind kept fun _ => (isQuiet_pure _).keeps kept

/-- A call for a pair keeps what is kept by what happens while it registers its token. -/
theorem keeps_newPair {relation : World → World → Prop} (kept : World.IsKept relation)
    (disturbs : Keeps relation (modify StoreAccess.disturb)) (context : Option Context)
    (user : UserSnapshot) (previous : Text) :
    (service.newPair context user previous).Keeps relation := by
  rw [← Plan.run_newPair]
  exact Plan.keeps_run kept disturbs _

/-- A step leads to a later world. -/
theorem isLater_perform (step : Step) (world : World) :
    world.IsLater (service.perform step world).2 := by
  cases step with
  | newPair context user previous elapsed raised =>
      have goesOn := service.keeps_newPair World.isKept_goesOn World.goesOn_disturb context user
        previous (world.disturbed elapsed raised)
      have later := goesOn.isLater (Int.natCast_nonneg elapsed)
      exact ⟨later.ticks, later.raised⟩
  | validateIdentity context token =>
      exact (service.isQuiet_validateIdentity context token).keeps World.isKept_isLater world
  | validateRefresh context token =>
      exact (service.isQuiet_validateRefresh context token).keeps World.isKept_isLater world
  | signOut context user => exact service.keeps_signOut World.isKept_isLater context user world
  | advance milliseconds =>
      exact ⟨Int.le_add_of_nonneg_right (Int.natCast_nonneg milliseconds), List.Subset.refl _⟩
  | raise signals => exact ⟨Int.le_refl _, List.subset_append_right _ _⟩

theorem isLater_worldAfter (start : World) (steps : List Step) :
    start.IsLater (service.worldAfter start steps) := by
  induction steps generalizing start with
  | nil => exact World.isKept_isLater.refl start
  | cons step rest inductionHypothesis =>
      exact (service.isLater_perform step start).trans (inductionHypothesis _)

/-- Every command to the store that is not a roll-back is issued while the context of its call has
not expired.  When a context has expired, then after any further steps every call with it fails
without a command, and leaves the store as it was. -/
theorem deadlines_final (context : Option Context) :
    (∀ (call : ServiceCall) (world : World),
      (call.plan service context).run = call.perform service context ∧
        ∀ issued ∈ (call.plan service context).trace world, issued.command.isRollBack = false →
          (service.resolve context).hasExpired issued.world.clock issued.world.raised = false) ∧
    ∀ start : World, (service.resolve context).hasExpired start.clock start.raised = true →
      ∀ (steps : List Step) (call : ServiceCall),
        (call.plan service context).trace (service.worldAfter start steps) = [] ∧
          ∃ failure after,
            runIn (call.perform service context) (service.worldAfter start steps) =
              (.error failure, after) ∧
            after.store = (service.worldAfter start steps).store := by
  refine ⟨fun call world => ⟨call.run_plan service context,
    call.isGuardedIn_plan service context world⟩, ?_⟩
  intro start expired steps call
  have stillExpired := (service.isLater_worldAfter start steps).hasExpired expired
  obtain ⟨untouched, failure, failed⟩ := call.failsIdle_plan service context stillExpired
  refine ⟨untouched, failure, ?_⟩
  have quiet := Plan.isQuietIn_of_trace_eq_nil untouched
  rw [call.run_plan] at failed quiet
  cases ran : runIn (call.perform service context) (service.worldAfter start steps) with
  | mk outcome after =>
      rw [ran] at failed
      cases failed
      obtain ⟨reports, drawn, rfl⟩ := quiet.exists_eq ran
      exact ⟨_, rfl, rfl⟩

/-! ### A sample -/

/-- A minute for a call that may be cancelled. -/
def minuteContext : Context :=
  { deadline := some (.ofInt 60), signal := some 7 }

/-- A sign-out within the minute issues its command.  When the minute is over, a later call for a
pair issues none. -/
theorem minuteContext_final :
    (∃ issued ∈ ((ServiceCall.signOut "u").plan sample (some minuteContext)).trace World.sample,
      issued.command.isRollBack = false ∧
        minuteContext.hasExpired issued.world.clock issued.world.raised = false) ∧
    minuteContext.hasExpired (World.sample.advance 60000).clock World.sample.raised = true ∧
    ∃ failure after,
      runIn (sample.newPair (some minuteContext) { id := "u" } "")
          (sample.worldAfter (World.sample.advance 60000) [.raise [3], .advance 1]) =
        (.error failure, after) ∧
      after.store = .memory .empty := by
  have active : minuteContext.hasExpired World.sample.clock World.sample.raised = false := by
    decide +kernel
  have expired : minuteContext.hasExpired (World.sample.advance 60000).clock
      World.sample.raised = true := by
    decide +kernel
  have membership : ⟨.revokeAll "u", World.sample⟩ ∈
      ((ServiceCall.signOut "u").plan sample (some minuteContext)).trace World.sample := by
    apply Plan.mem_trace_bind_iff.mpr
    refine .inr ⟨(), World.sample, runIn_checkUser (by decide) _, ?_⟩
    apply Plan.mem_trace_bind_iff.mpr
    refine .inr ⟨(), World.sample, runIn_ensureActive active _, ?_⟩
    apply Plan.mem_trace_bind_iff.mpr
    exact .inl (List.mem_singleton.mpr rfl)
  obtain ⟨guarded, final⟩ := deadlines_final sample (some minuteContext)
  refine ⟨⟨_, membership, rfl, ?_⟩, expired, ?_⟩
  · exact (guarded (.signOut "u") World.sample).2 _ membership rfl
  · obtain ⟨-, failure, after, ran, unchanged⟩ := final _ expired [.raise [3], .advance 1]
      (.newPair { id := "u" } "")
    exact ⟨failure, after, ran, unchanged⟩

end TokenService

end TokenAuthority
