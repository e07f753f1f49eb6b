import TokenAuthority.Proofs.Service.Standing

/-!
What a single step does to the entries of a memory store.

`Reflects` says it in terms of what the step registers and revokes.  A call for a pair reflects that
because without outages it ends in one of the ways of `EndsSoundly`.
-/

namespace TokenAuthority

namespace TokenService

open Call Store

/-- Issuing fails with no error by which a call leaves its token registered. -/
theorem keepsToken_of_refused {service : TokenService} {user : UserSnapshot} {previous : Text}
    {now : Int} {failure : Failure}
    (refused : service.admission user previous now = .error failure) :
    keepsToken (.error failure) = false := by
  unfold admission IdentityToken.issue at refused
  split at refused
  · cases refused
    rfl
  · split at refused
    · cases refused
      rfl
    · split at refused
      · cases refused
        rfl
      · split at refused <;> cases refused
        rfl

theorem keepsToken_of_unminted {service : TokenService} {user : Text} {world : World}
    {failure : Failure} (unminted : service.mint user world = .error failure) :
    keepsToken (.error failure) = false := by
  unfold mint RefreshToken.issue at unminted
  split at unminted
  · cases unminted
    rfl
  · split at unminted <;> cases unminted
    rfl

/-- How a call for a pair ends in a world without outages: it changes no entry that counts, or
registers its token and consumes none, or registers its token and consumes the previous one. -/
inductive EndsSoundly (service : TokenService) (user : UserSnapshot) (previous : Text)
    (world : World) (outcome : Except Failure TokenPair) (after : World) : Prop where
  | unchanged (keepsNone : keepsToken outcome = false)
      (alike : CountsAlike after.clock after.store world.store)
  | registered {issued : RefreshToken} (drawn : after.tokensDrawn ≠ world.tokensDrawn)
      (userPart : StoreKey.isPart user.id = true)
      (minted : service.mint user.id world = .ok issued)
      (result : (∃ pair, outcome = .ok pair ∧ previous = []) ∨
        outcome = .error (.service (.deadlinePassed "deleting previous refresh token")))
      (alike : CountsAlike after.clock after.store (issued.addedTo user.id world))
  | rotated {pair : TokenPair} (drawn : after.tokensDrawn ≠ world.tokensDrawn)
      (userPart : StoreKey.isPart user.id = true)
      (minted : service.mint user.id world = .ok pair.refresh)
      (result : outcome = .ok pair) (follows : previous ≠ [])
      (previousPart : StoreKey.isPart previous = true)
      (present : world.store.IsLive after.clock (StoreKey.join user.id previous))
      (alike : CountsAlike after.clock after.store
        ((pair.refresh.addedTo user.id world).remove (StoreKey.join user.id previous)))

variable {service : TokenService} {context : Option Context} {user : UserSnapshot}
  {previous : Text} {world after : World} {outcome : Except Failure TokenPair}

theorem Ends.soundly (ends : Ends service context user previous world outcome after)
    (sound : world.faults = {}) (forward : 0 ≤ world.duringPut.elapsed)
    (fresh : after.tokensDrawn ≠ world.tokensDrawn → ¬world.IsLive user.id world.nextId.text)
    (differs : after.tokensDrawn ≠ world.tokensDrawn → previous ≠ world.nextId.text) :
    EndsSoundly service user previous world outcome after := by
  cases ends with
  | refused refusal => exact .unchanged (keepsToken_of_refused refusal) (.refl _ _)
  | unminted admitted failed => exact .unchanged (keepsToken_of_unminted failed) (.refl _ _)
  | @settled identity refresh result after admitted minted settles =>
      have drawn : after.tokensDrawn ≠ world.tokensDrawn := by
        rw [settles.frame.tokensDrawn]
        exact Nat.succ_ne_self _
      obtain ⟨userPart, canonical⟩ := isPart_of_admitted admitted
      cases settles with
      | late => exact .unchanged rfl (.refl _ _)
      | unregistered active fails =>
          rcases World.eq_of_registeringFailure? fails with rfl | rfl <;>
            exact .unchanged rfl (.refl _ _)
      | begun active registers first =>
          exact .registered drawn userPart minted (.inl ⟨_, rfl, first⟩) (.refl _ _)
      | orphaned => exact .registered drawn userPart minted (.inr rfl) (.refl _ _)
      | unremoved active registers follows stillActive fails =>
          rw [StoreAccess.removingFails_of_no_faults (by exact sound)] at fails
          exact absurd fails (by decide)
      | missing active registers follows stillActive removes absent =>
          rcases describes_of_rollingBack previous
            ((refresh.registeredIn user.id world.drawing).removing user.id previous) minted
            (not_isLive_advance forward (fresh drawn)) (countsAlike_remove absent)
            (.service (.invalidToken .refresh)) with ⟨rollBackFails, -⟩ | unchanged
          · rw [StoreAccess.removingFails_of_no_faults (by exact sound)] at rollBackFails
            exact absurd rollBackFails (by decide)
          · exact .unchanged rfl unchanged.2
      | rotated active registers follows stillActive removes present =>
          have previousKey := join_ne_join_of_minted minted userPart (differs drawn)
          exact .rotated drawn userPart minted rfl follows
            (TokenId.isPart_of_isCanonical (canonical follows))
            ((refresh.isLive_addedTo_iff user.id world _ previousKey).mp present) (.refl _ _)

theorem EndsSoundly.withReports
    (soundly : EndsSoundly service user previous world outcome after) (reports : List Log.Event) :
    EndsSoundly service user previous world outcome (after.withReports reports) := by
  cases soundly with
  | unchanged keepsNone alike => exact .unchanged keepsNone alike
  | registered drawn userPart minted result alike =>
      exact .registered drawn userPart minted result alike
  | rotated drawn userPart minted result follows previousPart present alike =>
      exact .rotated drawn userPart minted result follows previousPart present alike

end TokenService

/-! ### What a single step does -/

namespace Moment

open Call Store

/-- Whether the entries that count after a step are what its registration and its revocations make
of those that counted before. -/
structure Reflects (service : TokenService) (moment : Moment) : Prop where
  forward : moment.before.clock.ticks ≤ moment.after.clock.ticks
  parts : ∀ registration, moment.registration? service = some registration →
    StoreKey.isPart registration.user = true ∧ StoreKey.isPart registration.token = true
  live : ∀ user token deadline, StoreKey.isPart user = true → StoreKey.isPart token = true →
    (moment.after.store.liveDeadline? moment.after.clock (StoreKey.join user token) =
        some deadline ↔
      (moment.registration? service = some ⟨user, token, deadline⟩ ∨
        moment.before.store.liveDeadline? moment.before.clock (StoreKey.join user token) =
          some deadline ∧ ¬moment.Revokes user token) ∧ deadline.isAhead moment.after.clock = true)
  keys : ∀ key, moment.after.store.IsLive moment.after.clock key →
    moment.before.store.IsLive moment.before.clock key ∨
      ∃ registration, moment.registration? service = some registration ∧
        key = StoreKey.join registration.user registration.token
  /-- A token is consumed only while it counts. -/
  consumes : ∀ user token, moment.consumed? = some (user, token) →
    (StoreKey.isPart user = true ∧ StoreKey.isPart token = true) ∧
      moment.before.store.IsLive moment.after.clock (StoreKey.join user token)

variable {service : TokenService}

theorem isLive_of_isLive_later {store : Store} (inMemory : store.InMemory) {clock later : Clock}
    (order : clock.ticks ≤ later.ticks) {key : Text} (live : store.IsLive later key) :
    store.IsLive clock key := by
  rw [isLive_iff] at live ⊢
  obtain ⟨deadline, found⟩ := live
  exact ⟨deadline, ((liveDeadline?_later_eq_some_iff inMemory order key deadline).mp found).1⟩

theorem Reflects.of_quiet {moment : Moment} (inMemory : moment.before.store.InMemory)
    (registersNone : moment.registration? service = none)
    (revokesNone : ∀ user token, ¬moment.Revokes user token)
    (forward : moment.before.clock.ticks ≤ moment.after.clock.ticks)
    (alike : CountsAlike moment.after.clock moment.after.store moment.before.store) :
    moment.Reflects service where
  forward := forward
  parts := by simp [registersNone]
  live := by
    intro user token deadline _ _
    rw [alike, liveDeadline?_later_eq_some_iff inMemory forward]
    simp [registersNone, revokesNone]
  keys := fun key live =>
    .inl (isLive_of_isLive_later inMemory forward ((alike.isLive_iff key).mp live))
  consumes := fun user token consumed => absurd (.inl consumed) (revokesNone user token)

theorem Reflects.of_signOut {world : World} {context : Option Context} {user : Text} {count : Nat}
    (userPart : StoreKey.isPart user = true) (inMemory : world.store.InMemory)
    (reports : List Log.Event) :
    Reflects service ⟨world, .signOut context user, .signedOut (.ok count),
      (world.clearing user).withReports reports⟩ where
  forward := Int.le_refl _
  parts := fun registration registered => absurd registered (by simp [registration?])
  live := by
    intro owner token deadline ownerPart tokenPart
    have clears := world.store.liveDeadline?_clear world.clock (StoreKey.userStart user)
      (StoreKey.join owner token)
    rw [World.store_withReports, World.clock_withReports, World.clearing, clears]
    simp only [StoreKey.userStart_isPrefix_join_iff userPart ownerPart, registration?, Revokes,
      consumed?, signedOut?, Option.some.injEq, reduceCtorEq, false_or]
    by_cases own : user = owner
    · simp [own]
    · rw [if_neg own]
      have ahead := liveDeadline?_later_eq_some_iff inMemory (Int.le_refl world.clock.ticks)
        (StoreKey.join owner token) deadline
      simp only [own, not_false_eq_true, and_true]
      exact ahead
  keys := by
    intro key live
    refine .inl ?_
    have clears := world.store.liveDeadline?_clear world.clock (StoreKey.userStart user) key
    rw [isLive_iff] at live ⊢
    obtain ⟨deadline, found⟩ := live
    rw [World.store_withReports, World.clock_withReports, World.clearing, clears] at found
    split at found
    · exact absurd found (by simp)
    · exact ⟨deadline, found⟩
  consumes := fun owner token consumed => absurd consumed (by simp [consumed?])

/-! ### A call for a pair -/

/-- What a call that keeps its token registers. -/
theorem registration?_of_kept {context : Option Context} {user : UserSnapshot} {previous : Text}
    {elapsed : Nat} {raised : List Signal} {world after : World}
    {outcome : Except Failure TokenPair} {issued : RefreshToken}
    (kept : keepsToken outcome = true) (drawn : after.tokensDrawn ≠ world.tokensDrawn)
    (minted : service.mint user.id (world.disturbed elapsed raised) = .ok issued) :
    registration? service
        ⟨world, .newPair context user previous elapsed raised, .pair outcome, after⟩ =
      some ⟨user.id, issued.id.text, issued.deadline world.clock⟩ := by
  obtain ⟨newId, -, begins⟩ := TokenService.mint_eq_ok minted
  have lifespan : Claims.Lifespan.starting? world.clock.wall service.policy.refreshLifetime =
      some issued.lifespan := begins
  simp only [registration?, kept, if_true, minted?, drawn, if_false, lifespan,
    Option.bind_eq_bind, Option.bind_some, Option.pure_def]
  rw [newId]
  rfl

/-- With an issued token added, its key counts until its deadline and the others as before. -/
theorem liveDeadline?_addedTo_eq_some_iff {issued : RefreshToken} {user : Text} {world : World}
    (inMemory : world.store.InMemory) (userPart : StoreKey.isPart user = true)
    (fresh : ¬world.IsLive user issued.id.text) {later : Clock}
    (order : world.clock.ticks ≤ later.ticks) (owner token : Text) (deadline : Deadline) :
    (issued.addedTo user world).liveDeadline? later (StoreKey.join owner token) =
        some deadline ↔
      (Registration.mk user issued.id.text (issued.deadline world.clock) =
          ⟨owner, token, deadline⟩ ∨
        world.store.liveDeadline? world.clock (StoreKey.join owner token) = some deadline) ∧
      deadline.isAhead later = true := by
  unfold RefreshToken.addedTo
  by_cases written : owner = user ∧ token = issued.id.text
  · obtain ⟨rfl, rfl⟩ := written
    rw [liveDeadline?_register_self_eq_some_iff, deadlineAfter_of_inMemory inMemory,
      (not_isLive_iff _ _ _).mp fresh, Registration.mk.injEq]
    simp only [true_and, reduceCtorEq, or_false]
    exact and_congr_left fun _ => eq_comm
  · have otherKey := mt (StoreKey.join_eq_join_iff userPart (TokenId.isPart_text issued.id)
      owner token).mp written
    rw [liveDeadline?_register_of_ne _ _ _ otherKey, liveDeadline?_later_eq_some_iff inMemory order,
      Registration.mk.injEq]
    have notWritten : ¬(user = owner ∧ issued.id.text = token ∧
        issued.deadline world.clock = deadline) :=
      fun same => written ⟨same.1.symm, same.2.1.symm⟩
    simp [notWritten]

theorem isLive_of_isLive_addedTo {issued : RefreshToken} {user : Text} {world : World}
    (inMemory : world.store.InMemory) {later : Clock} (order : world.clock.ticks ≤ later.ticks)
    {key : Text} (live : (issued.addedTo user world).IsLive later key) :
    world.store.IsLive world.clock key ∨ key = StoreKey.join user issued.id.text := by
  by_cases written : key = StoreKey.join user issued.id.text
  · exact .inr written
  · refine .inl (isLive_of_isLive_later inMemory order ?_)
    exact (issued.isLive_addedTo_iff user world later written).mp live

section Adding

variable {moment : Moment} {issued : RefreshToken} {user previous : Text}
  (registered : moment.registration? service = some ⟨user, issued.id.text,
    issued.deadline moment.before.clock⟩)
  (userPart : StoreKey.isPart user = true) (inMemory : moment.before.store.InMemory)
  (forward : moment.before.clock.ticks ≤ moment.after.clock.ticks)
  (fresh : ¬moment.before.IsLive user issued.id.text)

include registered userPart

theorem isPart_of_registered (registration : Registration)
    (isRegistered : moment.registration? service = some registration) :
    StoreKey.isPart registration.user = true ∧ StoreKey.isPart registration.token = true := by
  rw [registered, Option.some.injEq] at isRegistered
  rw [← isRegistered]
  exact ⟨userPart, TokenId.isPart_text issued.id⟩

include inMemory forward fresh

theorem Reflects.of_registered (revokesNone : ∀ owner token, ¬moment.Revokes owner token)
    (alike : CountsAlike moment.after.clock moment.after.store
      (issued.addedTo user moment.before)) : moment.Reflects service where
  forward := forward
  parts := isPart_of_registered registered userPart
  live := by
    intro owner token deadline _ _
    rw [alike, liveDeadline?_addedTo_eq_some_iff inMemory userPart fresh forward, registered]
    simp [revokesNone]
  keys := by
    intro key live
    rw [alike.isLive_iff] at live
    rcases isLive_of_isLive_addedTo inMemory forward live with before | written
    · exact .inl before
    · exact .inr ⟨_, registered, written⟩
  consumes := fun owner token consumed => absurd (.inl consumed) (revokesNone owner token)

theorem Reflects.of_rotated (previousPart : StoreKey.isPart previous = true)
    (differs : previous ≠ issued.id.text)
    (revokes : ∀ owner token, moment.Revokes owner token ↔ owner = user ∧ token = previous)
    (present : moment.before.store.IsLive moment.after.clock (StoreKey.join user previous))
    (alike : CountsAlike moment.after.clock moment.after.store
      ((issued.addedTo user moment.before).remove (StoreKey.join user previous))) :
    moment.Reflects service where
  forward := forward
  parts := isPart_of_registered registered userPart
  live := by
    intro owner token deadline _ _
    have sameKey := StoreKey.join_eq_join_iff userPart previousPart owner token
    rw [alike, liveDeadline?_remove, registered, revokes]
    by_cases consumed : owner = user ∧ token = previous
    · rw [if_pos (sameKey.mpr consumed)]
      simp [consumed, differs.symm]
    · rw [if_neg (mt sameKey.mp consumed),
        liveDeadline?_addedTo_eq_some_iff inMemory userPart fresh forward]
      simp only [consumed, not_false_eq_true, and_true, Option.some.injEq]
  keys := by
    intro key live
    rw [alike.isLive_iff] at live
    have added : (issued.addedTo user moment.before).IsLive moment.after.clock key := by
      unfold IsLive at live ⊢
      rw [liveDeadline?_remove] at live
      split at live
      · exact absurd live (by simp)
      · exact live
    rcases isLive_of_isLive_addedTo inMemory forward added with before | written
    · exact .inl before
    · exact .inr ⟨_, registered, written⟩
  consumes := by
    intro owner token consumed
    obtain ⟨rfl, rfl⟩ := (revokes owner token).mp (.inl consumed)
    exact ⟨⟨userPart, previousPart⟩, present⟩

end Adding

/-- A call for a pair reflects its registration and the consumption of the previous token. -/
theorem Reflects.of_newPair {context : Option Context} {user : UserSnapshot} {previous : Text}
    {elapsed : Nat} {raised : List Signal} {world after : World}
    {outcome : Except Failure TokenPair}
    (ends : TokenService.EndsSoundly service user previous (world.disturbed elapsed raised) outcome
      after)
    (inMemory : world.store.InMemory) (forward : world.clock.ticks ≤ after.clock.ticks)
    (fresh : after.tokensDrawn ≠ world.tokensDrawn → ¬world.IsLive user.id world.nextId.text)
    (differs : after.tokensDrawn ≠ world.tokensDrawn → previous ≠ world.nextId.text) :
    Reflects service
      ⟨world, .newPair context user previous elapsed raised, .pair outcome, after⟩ := by
  cases ends with
  | unchanged keepsNone alike =>
      refine .of_quiet inMemory ?_ ?_ forward alike
      · simp [registration?, keepsNone]
      · cases outcome with
        | error failure => simp [Revokes, consumed?, signedOut?]
        | ok pair => exact absurd keepsNone (by simp [keepsToken])
  | registered drawn userPart minted result alike =>
      have newId := (TokenService.mint_eq_ok minted).1
      have stillFresh := fresh drawn
      refine .of_registered (registration?_of_kept ?_ drawn minted) userPart inMemory forward
        (newId ▸ stillFresh) ?_ alike
      · rcases result with ⟨pair, rfl, -⟩ | rfl <;> rfl
      · rcases result with ⟨pair, rfl, first⟩ | rfl
        · simp [Revokes, consumed?, signedOut?, first]
        · simp [Revokes, consumed?, signedOut?]
  | rotated drawn userPart minted result follows previousPart present alike =>
      have newId := (TokenService.mint_eq_ok minted).1
      have stillFresh := fresh drawn
      have stillDiffers := differs drawn
      subst result
      refine .of_rotated (registration?_of_kept rfl drawn minted) userPart inMemory forward
        (newId ▸ stillFresh) previousPart (newId ▸ stillDiffers) ?_ present alike
      simp [Revokes, consumed?, signedOut?, follows, eq_comm]

end Moment

end TokenAuthority
