import TokenAuthority.Proofs.Service.Finality
import TokenAuthority.Proofs.Service.Interleaving

/-!
Calls for pairs that are interrupted.

A plan can be stopped right after each command that it issues, and go on later in whatever world
there is then.  What remains of a call for a pair takes the accesses to the store that its phase
tells, one at a time.  So whatever holds of all interleavings of the accesses holds of calls that
are interrupted by one another after any of their commands.
-/

namespace TokenAuthority

/-- Whether two worlds differ in reports and drawn identifiers only. -/
def World.Unmoved (before after : World) : Prop :=
  ∃ reports drawn, after = { before with reports, tokensDrawn := drawn }

namespace Plan

open Call

variable {α β : Type}

/-- Where a plan stops: at its end, or after a command, with what then remains of it. -/
inductive Stop (α : Type) : Type 1 where
  | ended (outcome : Except Failure α)
  | paused (rest : Plan α)

/-- The plan of which nothing remains but its outcome. -/
def ofOutcome : Except Failure α → Plan α
  | .ok value => .step (pure value) (isQuiet_pure value)
  | .error failure => .step (throw failure) (isQuiet_throw failure)

/-- Go on until a command has been issued, or else to the end. -/
def resume : {α : Type} → Plan α → World → Stop α × World
  | _, .step call _, world =>
      let ran := runIn call world
      (.ended ran.1, ran.2)
  | _, .issue command, world =>
      let ran := runIn command.perform world
      (.paused (ofOutcome ran.1), ran.2)
  | _, .bind first next, world =>
      match first.resume world with
      | (.ended (.ok value), after) => (next value).resume after
      | (.ended (.error failure), after) => (.ended (.error failure), after)
      | (.paused rest, after) => (.paused (rest.bind next), after)
  | _, .handle body handler, world =>
      match body.resume world with
      | (.ended (.ok value), after) => (.ended (.ok value), after)
      | (.ended (.error failure), after) => (handler failure).resume after
      | (.paused rest, after) => (.paused (rest.handle handler), after)

section Parts

variable {world after : World}

theorem resume_bind_of_ok {first : Plan α} {value : α}
    (stops : first.resume world = (.ended (.ok value), after)) (next : α → Plan β) :
    (first.bind next).resume world = (next value).resume after := by
  rw [resume, stops]

theorem resume_bind_of_error {first : Plan α} {failure : Failure}
    (stops : first.resume world = (.ended (.error failure), after)) (next : α → Plan β) :
    (first.bind next).resume world = (.ended (.error failure), after) := by
  rw [resume, stops]

theorem resume_bind_of_paused {first rest : Plan α}
    (stops : first.resume world = (.paused rest, after)) (next : α → Plan β) :
    (first.bind next).resume world = (.paused (rest.bind next), after) := by
  rw [resume, stops]

theorem resume_handle_of_ok {body : Plan α} {value : α}
    (stops : body.resume world = (.ended (.ok value), after)) (handler : Failure → Plan α) :
    (body.handle handler).resume world = (.ended (.ok value), after) := by
  rw [resume, stops]

theorem resume_handle_of_error {body : Plan α} {failure : Failure}
    (stops : body.resume world = (.ended (.error failure), after))
    (handler : Failure → Plan α) :
    (body.handle handler).resume world = (handler failure).resume after := by
  rw [resume, stops]

theorem resume_handle_of_paused {body rest : Plan α}
    (stops : body.resume world = (.paused rest, after)) (handler : Failure → Plan α) :
    (body.handle handler).resume world = (.paused (rest.handle handler), after) := by
  rw [resume, stops]

end Parts

/-- What is still done from where a plan has stopped. -/
def Stop.run : Stop α × World → Except Failure α × World
  | (.ended outcome, world) => (outcome, world)
  | (.paused rest, world) => runIn rest.run world

@[simp]
theorem run_ofOutcome (outcome : Except Failure α) (world : World) :
    runIn (ofOutcome outcome).run world = (outcome, world) := by
  cases outcome <;> rfl

/-- A plan that goes on at once where it stops does what it does without a stop. -/
theorem run_resume (plan : Plan α) (world : World) :
    Stop.run (plan.resume world) = runIn plan.run world := by
  induction plan generalizing world with
  | step call quiet => rfl
  | issue command => exact run_ofOutcome _ _
  | bind first next firstHypothesis nextHypothesis =>
      rw [run_bind, runIn_bind, ← firstHypothesis world]
      cases stops : first.resume world with
      | mk stop after =>
          cases stop with
          | ended outcome =>
              cases outcome with
              | ok value =>
                  rw [resume_bind_of_ok stops]
                  exact nextHypothesis value after
              | error failure =>
                  rw [resume_bind_of_error stops]
                  rfl
          | paused rest =>
              rw [resume_bind_of_paused stops]
              exact runIn_bind _ _ _
  | handle body handler bodyHypothesis handlerHypothesis =>
      show _ = runIn (MonadExcept.tryCatch body.run fun failure => (handler failure).run) world
      rw [runIn_tryCatch, ← bodyHypothesis world]
      cases stops : body.resume world with
      | mk stop after =>
          cases stop with
          | ended outcome =>
              cases outcome with
              | ok value =>
                  rw [resume_handle_of_ok stops]
                  rfl
              | error failure =>
                  rw [resume_handle_of_error stops]
                  exact handlerHypothesis failure after
          | paused rest =>
              rw [resume_handle_of_paused stops]
              exact runIn_tryCatch _ _ _

/-! ### Settling a pair -/

/-- What a call for a pair does once its tokens are minted. -/
def settlePair (context : Context) (user previous : Text) (identity : IdentityToken)
    (issued : RefreshToken) : Plan TokenPair := do
  settle context user previous issued
  step (TokenService.note .debug "Issued token pair" user (some issued.id.text))
    (TokenService.isQuiet_note _ _ _ _)
  return ⟨identity, issued⟩

/-- A call for a pair mints its tokens, which leaves the store alone, and settles them. -/
theorem newPair_eq_settlePair (service : TokenService) (context : Option Context)
    (user : UserSnapshot) (previous : Text) :
    newPair service context user previous =
      (step (service.prepare user previous) (service.isQuiet_prepare user previous)).bind
        fun minted => settlePair (service.resolve context) user.id previous minted.1 minted.2 :=
  rfl

end Plan

namespace Rotation

open Call Plan

variable {α : Type}

/-- Whether a call in a phase can access the store of a world: nothing fails there, and if the call
has begun, the store takes its keys. -/
structure Admits (rotation : Rotation) (phase : Phase) (world : World) : Prop where
  sound : world.faults = {}
  taken : phase.IsUnderway → world.store.takes rotation.user = true

/-- Whether a plan takes the accesses of a call from a phase on.  Before each of them it may change
reports and draw identifiers, and after the last one as well. -/
inductive Follows (rotation : Rotation) : Phase → Plan α → Prop
  | done {phase : Phase} {plan : Plan α} {outcome : Except Failure α}
      (isOutcome : phase.outcome? = some (outcome.map fun _ => ()))
      (ends : ∀ world : World, ∃ after, plan.resume world = (.ended outcome, after) ∧
        world.Unmoved after) :
      Follows rotation phase plan
  | underway {phase : Phase} {plan : Plan α} (rest : World → Plan α) (before : World → World)
      (unmoved : ∀ world : World, world.Unmoved (before world))
      (goesOn : ∀ world, rotation.Admits phase world →
        plan.resume world =
          (.paused (rest world), (rotation.advance phase (before world)).2))
      (follows : ∀ world, rotation.Admits phase world →
        Follows rotation (rotation.advance phase (before world)).1 (rest world)) :
      Follows rotation phase plan

theorem snd_advance_ready (rotation : Rotation) (world : World) :
    (rotation.advance .ready world).2 =
      (runIn (StoreAccess.put rotation.user rotation.issued.id.text
        (rotation.issued.timeLeft world.clock.wall)) world).2 := by
  unfold advance
  cases runIn (StoreAccess.put rotation.user rotation.issued.id.text
      (rotation.issued.timeLeft world.clock.wall)) world with
  | mk outcome after => cases outcome <;> rfl

theorem snd_advance_registered (rotation : Rotation) (world : World) :
    (rotation.advance .registered world).2 =
      (runIn (StoreAccess.delete rotation.user rotation.previous) world).2 := by
  unfold advance
  cases runIn (StoreAccess.delete rotation.user rotation.previous) world with
  | mk outcome after => cases outcome <;> rfl

/-! ### What remains of a call -/

section Settling

variable (rotation : Rotation) (context : Context) (identity : IdentityToken)

/-- What remains of a call when its pair is settled. -/
def finish : Plan TokenPair := do
  step (TokenService.note .debug "Issued token pair" rotation.user
    (some rotation.issued.id.text)) (TokenService.isQuiet_note _ _ _ _)
  return ⟨identity, rotation.issued⟩

/-- What remains of it after the command that registers its token. -/
def afterRegistering (outcome : Except Failure Unit) : Plan TokenPair := do
  (do
    ofOutcome outcome
    if !rotation.previous.isEmpty then
      consumePrevious context rotation.user rotation.previous rotation.issued)
  rotation.finish identity

/-- What remains of it after the command that removes the previous token. -/
def afterRemoving (outcome : Except Failure Nat) : Plan TokenPair := do
  (do
    let removed ←
      handle (ofOutcome outcome) (afterNoRemoval rotation.user rotation.previous rotation.issued)
    afterRemoval rotation.user rotation.previous rotation.issued removed)
  rotation.finish identity

/-- What remains of it after the command that rolls its token back. -/
def afterRollingBack (outcome : Except Failure Nat) : Plan TokenPair := do
  (do
    handle
      (do
        let _ ← ofOutcome outcome)
      (afterNoRollBack rotation.user rotation.issued)
    step (Call.fail (.invalidToken .refresh)) TokenService.isQuiet_refuse)
  rotation.finish identity

theorem exists_resume_finish (world : World) :
    ∃ after, (rotation.finish identity).resume world =
      (.ended (.ok ⟨identity, rotation.issued⟩), after) ∧ world.Unmoved after :=
  ⟨_, rfl, _, _, rfl⟩

section Endless

variable (endless : ∀ clock raised, context.hasExpired clock raised = false)

include endless

/-- The first command registers the new token. -/
theorem resume_settlePair (world : World) :
    let ran := runIn (StoreAccess.put rotation.user rotation.issued.id.text
      (rotation.issued.timeLeft world.clock.wall)) world
    (settlePair context rotation.user rotation.previous identity rotation.issued).resume world =
      (.paused (rotation.afterRegistering context identity ran.1), ran.2) := by
  intro ran
  have active : (step (TokenService.ensureActive context "registering refresh token")
      (TokenService.isQuiet_ensureActive _ _)).resume world = (.ended (.ok ()), world) := by
    rw [resume, TokenService.runIn_ensureActive (endless _ _)]
  have registers : (Plan.register context rotation.user rotation.issued).resume world =
      (.paused (ofOutcome ran.1), ran.2) :=
    resume_bind_of_ok active _
  exact resume_bind_of_paused (resume_bind_of_paused registers _) _

/-- The second command removes the previous token. -/
theorem resume_afterRegistering (follows : rotation.previous ≠ []) (world : World) :
    let ran := runIn (StoreAccess.delete rotation.user rotation.previous) world
    (rotation.afterRegistering context identity (.ok ())).resume world =
      (.paused (rotation.afterRemoving identity ran.1), ran.2) := by
  intro ran
  have wanted : (step
      (TokenService.ensureStillWanted context rotation.user rotation.issued)
      (TokenService.isQuiet_ensureStillWanted _ _ _)).resume world = (.ended (.ok ()), world) := by
    rw [resume, TokenService.runIn_ensureStillWanted (endless _ _)]
  have removes :
      (Plan.removePrevious rotation.user rotation.previous rotation.issued).resume world =
      (.paused ((ofOutcome ran.1).handle
        (afterNoRemoval rotation.user rotation.previous rotation.issued)), ran.2) :=
    resume_handle_of_paused rfl _
  have consumes : (consumePrevious context rotation.user rotation.previous
      rotation.issued).resume world = _ :=
    (resume_bind_of_ok wanted _).trans (resume_bind_of_paused removes _)
  have nonempty : (!rotation.previous.isEmpty) = true := by simpa using follows
  refine resume_bind_of_paused (resume_bind_of_ok rfl _ |>.trans ?_) _
  rw [if_pos nonempty]
  exact consumes

end Endless

/-- The third command rolls the new token back, if there was no previous one. -/
theorem exists_resume_afterRemoving (world : World) :
    ∃ before, world.Unmoved before ∧
      (rotation.afterRemoving identity (.ok 0)).resume world =
        (.paused (rotation.afterRollingBack identity
          (runIn (StoreAccess.delete rotation.user rotation.issued.id.text) before).1),
        (runIn (StoreAccess.delete rotation.user rotation.issued.id.text) before).2) :=
  ⟨_, ⟨_, _, rfl⟩, rfl⟩

/-! ### Calls and what remains of them -/

theorem follows_afterRollingBack (removed : Nat) :
    rotation.Follows (.failed (.service (.invalidToken .refresh)))
      (rotation.afterRollingBack identity (.ok removed)) :=
  .done rfl fun world => ⟨world, rfl, _, _, rfl⟩

theorem follows_afterRemoving_succ (removed : Nat) :
    rotation.Follows .returned (rotation.afterRemoving identity (.ok (removed + 1))) :=
  .done rfl fun _ => ⟨_, rfl, _, _, rfl⟩

theorem follows_afterRemoving_zero :
    rotation.Follows .refused (rotation.afterRemoving identity (.ok 0)) := by
  choose before unmoved goesOn using rotation.exists_resume_afterRemoving identity
  refine .underway _ before unmoved (fun world _ => goesOn world) ?_
  intro world admits
  obtain ⟨reports, drawn, isBefore⟩ := unmoved world
  have taken : (before world).store.takes
      (StoreKey.join rotation.user rotation.issued.id.text) = true := by
    rw [Store.takes_join_text, isBefore]
    exact admits.taken trivial
  have sound : (before world).faults = {} := by
    rw [isBefore]
    exact admits.sound
  rw [StoreAccess.runIn_delete rotation.userPart (TokenId.isPart_text rotation.issued.id)
    (StoreAccess.removingFails_of_no_faults sound _) taken]
  exact rotation.follows_afterRollingBack identity _

theorem follows_afterRegistering_of_error (failure : Failure) :
    rotation.Follows (.failed failure)
      (rotation.afterRegistering context identity (.error failure)) :=
  .done rfl fun world => ⟨world, rfl, _, _, rfl⟩

theorem follows_afterRegistering_of_first (isFirst : rotation.previous = []) :
    rotation.Follows .returned (rotation.afterRegistering context identity (.ok ())) := by
  have nothingMore : (!rotation.previous.isEmpty) = false := by simp [isFirst]
  have ends : ∀ world : World, ∃ after,
      (rotation.afterRegistering context identity (.ok ())).resume world =
        (.ended (.ok ⟨identity, rotation.issued⟩), after) ∧ world.Unmoved after := by
    intro world
    unfold afterRegistering
    rw [nothingMore, if_neg Bool.false_ne_true]
    exact rotation.exists_resume_finish identity world
  exact .done rfl ends

variable (endless : ∀ clock raised, context.hasExpired clock raised = false)

include endless

theorem follows_afterRegistering (follows : rotation.previous ≠ []) :
    rotation.Follows .registered (rotation.afterRegistering context identity (.ok ())) := by
  refine .underway (fun world => rotation.afterRemoving identity
    (runIn (StoreAccess.delete rotation.user rotation.previous) world).1) id
    (fun _ => ⟨_, _, rfl⟩) ?_ ?_
  · intro world _
    rw [rotation.resume_afterRegistering context identity endless follows, id,
      snd_advance_registered]
  · intro world admits
    have taken : world.store.takes (StoreKey.join rotation.user rotation.previous) = true := by
      rw [Store.takes_join, admits.taken trivial,
        Store.takes_of_isEncodable (rotation.previousEncodable follows), Bool.and_true]
    rw [id, advance_registered admits.sound (admits.taken trivial) follows,
      StoreAccess.runIn_delete rotation.userPart (rotation.previousPart follows)
        (StoreAccess.removingFails_of_no_faults admits.sound _) taken]
    by_cases live : world.IsLive rotation.user rotation.previous
    · simpa only [if_pos live] using rotation.follows_afterRemoving_succ identity 0
    · simpa only [if_neg live] using rotation.follows_afterRemoving_zero identity

/-- A call for a pair takes the accesses of its rotation, from the first one on. -/
theorem follows_settlePair :
    rotation.Follows .ready
      (settlePair context rotation.user rotation.previous identity rotation.issued) := by
  refine .underway (fun world => rotation.afterRegistering context identity
    (runIn (StoreAccess.put rotation.user rotation.issued.id.text
      (rotation.issued.timeLeft world.clock.wall)) world).1) id (fun _ => ⟨_, _, rfl⟩) ?_ ?_
  · intro world _
    rw [rotation.resume_settlePair context identity endless, id, snd_advance_ready]
  · intro world _
    unfold advance
    rw [id]
    cases runIn (StoreAccess.put rotation.user rotation.issued.id.text
        (rotation.issued.timeLeft world.clock.wall)) world with
    | mk outcome after =>
        cases outcome with
        | error failure =>
            exact rotation.follows_afterRegistering_of_error context identity failure
        | ok value =>
            by_cases isFirst : rotation.previous = []
            · simpa only [if_pos isFirst] using
                rotation.follows_afterRegistering_of_first context identity isFirst
            · simpa only [if_neg isFirst] using
                rotation.follows_afterRegistering context identity endless isFirst

end Settling

/-- Whether a call has stopped where its phase tells. -/
inductive StopsAt (rotation : Rotation) (phase : Phase) : Stop α → Prop
  | ended {outcome : Except Failure α}
      (isOutcome : phase.outcome? = some (outcome.map fun _ => ())) :
      StopsAt rotation phase (.ended outcome)
  | paused {rest : Plan α} (follows : rotation.Follows phase rest) :
      StopsAt rotation phase (.paused rest)

theorem StopsAt.completed {rotation : Rotation} {phase : Phase} {outcome : Except Failure α}
    (stops : rotation.StopsAt phase (.ended outcome)) : phase.Completed := by
  cases stops with
  | ended isOutcome =>
      cases phase with
      | returned => trivial
      | failed failure => trivial
      | _ => cases isOutcome

theorem StopsAt.eq_returned {rotation : Rotation} {phase : Phase} {value : α}
    (stops : rotation.StopsAt phase (.ended (.ok value))) : phase = .returned := by
  cases stops with
  | ended isOutcome =>
      cases phase with
      | returned => rfl
      | _ => cases isOutcome

theorem StopsAt.eq_failed {rotation : Rotation} {phase : Phase} {failure : Failure}
    (stops : rotation.StopsAt phase (.ended (.error failure) : Stop α)) :
    phase = .failed failure := by
  cases stops with
  | ended isOutcome =>
      cases phase with
      | failed other =>
          cases isOutcome
          rfl
      | _ => cases isOutcome

end Rotation

/-! ### Interleavings with reports -/

section Interleavings

variable {Index : Type} [DecidableEq Index] {calls : Index → Rotation}
  {start system next : System Index}

/-- What can happen next when calls report and draw identifiers between their accesses. -/
inductive TurnOrNote (calls : Index → Rotation) (system : System Index) : System Index → Prop where
  | turn {next : System Index} (happens : Turn calls system next) : TurnOrNote calls system next
  | note {after : World} (unmoved : system.world.Unmoved after) :
      TurnOrNote calls system { system with world := after }

omit [DecidableEq Index] in
/-- Reports and drawn identifiers do not change how the calls have come along. -/
theorem System.Progress.note (progress : System.Progress calls start system) {after : World}
    (unmoved : system.world.Unmoved after) :
    System.Progress calls start { system with world := after } := by
  obtain ⟨reports, drawn, rfl⟩ := unmoved
  obtain ⟨⟨sound, calm, follows, failure, taken, consumed, once⟩, takes, own, kept, loses⟩ :=
    progress
  exact ⟨⟨sound, calm, follows, failure, taken, consumed, once⟩, takes, own, kept, loses⟩

theorem System.Progress.of_interleaving (begins : Begins calls start)
    (reaches : Relation.ReflTransGen (TurnOrNote calls) start system) :
    System.Progress calls start system := by
  induction reaches with
  | refl => exact .of_begins begins
  | tail _ happens inductionHypothesis =>
      cases happens with
      | turn happens => exact inductionHypothesis.turn begins happens
      | note unmoved => exact inductionHypothesis.note unmoved

end Interleavings

/-! ### Calls that interrupt one another -/

/-- Calls for pairs that share a world, each of which has stopped somewhere. -/
structure Interrupted (Index : Type) : Type 1 where
  world : World
  stop : Index → Plan.Stop TokenPair

namespace Interrupted

open Plan

variable {Index : Type} [DecidableEq Index] {calls : Index → Rotation}
  {start system : System Index} {interrupted later : Interrupted Index}

/-- What can happen next: some call goes on to where it stops the next time, or time passes in which
no entry ends. -/
inductive Next (interrupted : Interrupted Index) : Interrupted Index → Prop where
  | goOn (index : Index) {rest : Plan TokenPair}
      (isPaused : interrupted.stop index = .paused rest) :
      Next interrupted
        ⟨(rest.resume interrupted.world).2,
          Function.update interrupted.stop index (rest.resume interrupted.world).1⟩
  | wait (milliseconds : Nat)
      (quiet : ∀ key, interrupted.world.store.IsLive interrupted.world.clock key →
        interrupted.world.store.IsLive (interrupted.world.clock.advance milliseconds) key) :
      Next interrupted { interrupted with world := interrupted.world.advance milliseconds }

/-- Whether calls have come as far as the phases of a system tell. -/
structure Shows (interrupted : Interrupted Index) (calls : Index → Rotation)
    (system : System Index) : Prop where
  world : interrupted.world = system.world
  stops : ∀ index, (calls index).StopsAt (system.phase index) (interrupted.stop index)

omit [DecidableEq Index] in
/-- A call that goes on may access the store. -/
theorem admits_of_progress (progress : System.Progress calls start system) (index : Index) :
    (calls index).Admits (system.phase index) system.world where
  sound := progress.sound
  taken := progress.taken index

/-- Whatever a call does when it goes on, it reports, and it accesses the store once at most. -/
theorem Shows.next (same : interrupted.Shows calls system)
    (progress : System.Progress calls start system) (happens : interrupted.Next later) :
    ∃ further, Relation.ReflTransGen (TurnOrNote calls) system further ∧
      later.Shows calls further := by
  obtain ⟨world, stop⟩ := interrupted
  obtain ⟨rfl, stops⟩ := same
  cases happens with
  | @goOn index rest isPaused =>
      have stopsHere := stops index
      simp only at isPaused stopsHere
      rw [isPaused] at stopsHere
      cases stopsHere with
      | paused follows =>
          cases follows with
          | done isOutcome ends =>
              obtain ⟨after, ended, unmoved⟩ := ends system.world
              refine ⟨{ system with world := after }, .single (.note unmoved), ?_⟩
              simp only [ended]
              refine ⟨rfl, fun other => ?_⟩
              by_cases isHere : other = index
              · subst isHere
                simpa using .ended isOutcome
              · simpa [isHere] using stops other
          | underway rest before unmoved goesOn follows =>
              have admits := admits_of_progress progress index
              have noted : TurnOrNote calls system { system with world := before system.world } :=
                .note (unmoved system.world)
              refine ⟨_, .tail (.single noted) (.turn (.access index)), ?_⟩
              simp only [goesOn _ admits]
              refine ⟨rfl, fun other => ?_⟩
              by_cases isHere : other = index
              · subst isHere
                simpa using .paused (follows _ admits)
              · simpa [isHere] using stops other
  | wait milliseconds quiet =>
      exact ⟨_, .single (.turn (.wait milliseconds quiet)), rfl, stops⟩

/-- Whatever calls do that interrupt one another, it is an interleaving of their accesses. -/
theorem Shows.of_reaches (begins : Begins calls start) {first : Interrupted Index}
    (same : first.Shows calls start) (reaches : Relation.ReflTransGen Next first interrupted) :
    ∃ system, Relation.ReflTransGen (TurnOrNote calls) start system ∧
      interrupted.Shows calls system := by
  induction reaches with
  | refl => exact ⟨start, .refl, same⟩
  | tail _ happens inductionHypothesis =>
      obtain ⟨system, reached, alike⟩ := inductionHypothesis
      obtain ⟨further, goesOn, alsoAlike⟩ := alike.next (.of_interleaving begins reached) happens
      exact ⟨further, reached.trans goesOn, alsoAlike⟩

/-- Whether calls have minted their tokens and are about to settle them, under contexts that do not
expire. -/
structure Settles (interrupted : Interrupted Index) (calls : Index → Rotation)
    (start : System Index) : Prop where
  world : interrupted.world = start.world
  settle : ∀ index, ∃ context identity,
    (∀ clock raised, Context.hasExpired context clock raised = false) ∧
      interrupted.stop index = .paused (settlePair context (calls index).user
        (calls index).previous identity (calls index).issued)

/-- Calls that have just minted their tokens, with no deadline and no signal. -/
def ofMinted (calls : Index → Rotation) (identity : Index → IdentityToken) (world : World) :
    Interrupted Index where
  world := world
  stop index :=
    .paused (settlePair {} (calls index).user (calls index).previous (identity index)
      (calls index).issued)

omit [DecidableEq Index] in
theorem settles_ofMinted (calls : Index → Rotation) (identity : Index → IdentityToken)
    (start : System Index) : (ofMinted calls identity start.world).Settles calls start where
  world := rfl
  settle index := ⟨{}, identity index, fun _ _ => rfl, rfl⟩

omit [DecidableEq Index] in
theorem Settles.toShows (begins : Begins calls start) (settles : interrupted.Settles calls start) :
    interrupted.Shows calls start where
  world := settles.world
  stops := by
    intro index
    obtain ⟨context, identity, endless, isPaused⟩ := settles.settle index
    rw [begins.ready, isPaused]
    exact .paused ((calls index).follows_settlePair context identity endless)

section Settled

variable (begins : Begins calls start) {first : Interrupted Index}
  (settles : first.Settles calls start)
  (reaches : Relation.ReflTransGen Next first interrupted) {user token : Text}

include begins settles reaches

/-- No token is consumed by two calls that have returned. -/
theorem eq_of_ended_ok {one other : Index} (names : (calls one).Names user token)
    (alsoNames : (calls other).Names user token) {pair otherPair : TokenPair}
    (returned : interrupted.stop one = .ended (.ok pair))
    (alsoReturned : interrupted.stop other = .ended (.ok otherPair)) : one = other := by
  obtain ⟨system, reached, same⟩ := Shows.of_reaches begins (settles.toShows begins) reaches
  have progress := System.Progress.of_interleaving begins reached
  have phase := (returned ▸ same.stops one).eq_returned
  have alsoPhase := (alsoReturned ▸ same.stops other).eq_returned
  exact progress.once one other _ phase alsoPhase names.consumes alsoNames.consumes

/-- Once the calls have ended that name a token which counted in the beginning, exactly one of them
has returned a pair, and the others have been refused. -/
theorem existsUnique_ended_ok (taken : start.world.store.takes user = true)
    (stood : start.world.IsLive user token) (named : ∃ index, (calls index).Names user token)
    (ended : ∀ index, (calls index).Names user token →
      ∃ outcome, interrupted.stop index = .ended outcome) :
    (∃! index, (calls index).Names user token ∧
      ∃ pair, interrupted.stop index = .ended (.ok pair)) ∧
    ∀ index, (calls index).Names user token →
      ∀ failure, interrupted.stop index = .ended (.error failure) →
        failure = .service (.invalidToken .refresh) := by
  obtain ⟨system, reached, same⟩ := Shows.of_reaches begins (settles.toShows begins) reaches
  have progress := System.Progress.of_interleaving begins reached
  have returned_iff : ∀ index, (calls index).Names user token →
      ((∃ pair, interrupted.stop index = .ended (.ok pair)) ↔
        system.phase index = .returned) := by
    intro index names
    have stops := same.stops index
    obtain ⟨outcome, isEnded⟩ := ended index names
    rw [isEnded] at stops ⊢
    cases outcome with
    | ok pair => exact iff_of_true ⟨pair, rfl⟩ stops.eq_returned
    | error failure => exact iff_of_false (by simp) (by simp [stops.eq_failed])
  constructor
  · obtain ⟨index, names⟩ := named
    obtain ⟨outcome, isEnded⟩ := ended index names
    have completed := (isEnded ▸ same.stops index).completed
    obtain ⟨winner, ⟨winnerNames, returned⟩, only⟩ :=
      progress.existsUnique_returned stood taken names completed
    refine ⟨winner, ⟨winnerNames, (returned_iff winner winnerNames).mpr returned⟩, ?_⟩
    rintro other ⟨otherNames, otherReturned⟩
    exact only other ⟨otherNames, (returned_iff other otherNames).mp otherReturned⟩
  · intro index names failure failed
    exact progress.eq_invalidToken_of_failed taken names (failed ▸ same.stops index).eq_failed

end Settled

end Interrupted

end TokenAuthority
