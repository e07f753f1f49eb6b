import TokenAuthority.Proofs.Service.Accounting

/-!
Runs keep account of the standing tokens.

Every step of a run without outages reflects what it registers and revokes, so that after any run
from an empty memory store the entries that count are the standing tokens whose time has not run
out.
-/

namespace TokenAuthority

open Call

namespace TokenService

variable {service : TokenService}

theorem reflects_of_withReports {step : Step} {answer : Answer} {world : World}
    (inMemory : world.store.InMemory) (reports : List Log.Event)
    (registersNone : Moment.registration? service
      ⟨world, step, answer, world.withReports reports⟩ = none)
    (revokesNone : ∀ user token,
      ¬Moment.Revokes ⟨world, step, answer, world.withReports reports⟩ user token) :
    Moment.Reflects service ⟨world, step, answer, world.withReports reports⟩ :=
  .of_quiet inMemory registersNone revokesNone (Int.le_refl _) (.refl _ _)

theorem moment_newPair {context : Option Context} {user : UserSnapshot} {previous : Text}
    {elapsed : Nat} {raised : List Signal} {world after : World}
    {outcome : Except Failure TokenPair}
    (ran : runIn (service.newPair context user previous) (world.disturbed elapsed raised) =
      (outcome, after)) :
    service.moment (.newPair context user previous elapsed raised) world =
      ⟨world, .newPair context user previous elapsed raised, .pair outcome, after⟩ := by
  unfold moment perform
  simp only [ran]
  rfl

/-- Without an outage a call for a pair reflects what it registers and revokes. -/
theorem reflects_newPair (context : Option Context) (user : UserSnapshot) (previous : Text)
    (elapsed : Nat) (raised : List Signal) {world : World} (sound : world.faults = {})
    (inMemory : world.store.InMemory) :
    let moment := service.moment (.newPair context user previous elapsed raised) world
    (∀ id, moment.minted? = some id → ¬world.IsLive user.id id.text) →
      (∀ id, moment.minted? = some id → previous ≠ id.text) →
        moment.Reflects service ∧ moment.after.faults = {} ∧ moment.after.store.InMemory := by
  intro moment fresh differs
  obtain ⟨outcome, after, reports, ends, ran⟩ := runIn_newPair service context user previous
    (world.disturbed elapsed raised)
  have isMoment : moment = ⟨world, .newPair context user previous elapsed raised, .pair outcome,
      after.withReports reports⟩ := moment_newPair ran
  rw [isMoment] at fresh differs ⊢
  have mintedOf : after.tokensDrawn ≠ world.tokensDrawn →
      Moment.minted? ⟨world, .newPair context user previous elapsed raised, .pair outcome,
        after.withReports reports⟩ = some world.nextId := fun drawn => if_neg drawn
  have freshOf : after.tokensDrawn ≠ world.tokensDrawn →
      ¬world.IsLive user.id world.nextId.text := fun drawn => fresh _ (mintedOf drawn)
  have differsOf : after.tokensDrawn ≠ world.tokensDrawn → previous ≠ world.nextId.text :=
    fun drawn => differs _ (mintedOf drawn)
  have soundly := ends.soundly sound (Int.natCast_nonneg elapsed) freshOf differsOf
  have forward : world.clock.ticks ≤ after.clock.ticks := by
    rcases ends.clock with same | later
    · rw [same]
      exact Int.le_refl _
    · rw [later]
      exact Int.le_add_of_nonneg_right (Int.natCast_nonneg elapsed)
  refine ⟨.of_newPair (soundly.withReports reports) inMemory forward freshOf differsOf, ?_, ?_⟩
  · rcases ends.frame with frame | frame <;> exact frame.faults.trans sound
  · rcases ends.frame with frame | frame <;> exact frame.inMemory.mpr inMemory

/-- Without an outage every step reflects what it registers and revokes, and leaves a memory store
without outages behind. -/
theorem reflects_moment (step : Step) {world : World} (sound : world.faults = {})
    (inMemory : world.store.InMemory)
    (fresh : ∀ id, (service.moment step world).minted? = some id →
      ∀ user, ¬world.IsLive user id.text)
    (differs : ∀ id, (service.moment step world).minted? = some id →
      step.previous? ≠ some id.text) :
    (service.moment step world).Reflects service ∧
      (service.moment step world).after.faults = {} ∧
      (service.moment step world).after.store.InMemory := by
  cases step with
  | newPair context user previous elapsed raised =>
      exact reflects_newPair context user previous elapsed raised sound inMemory
        (fun id minted => fresh id minted user.id)
        (fun id minted equal => differs id minted (congrArg some equal))
  | validateIdentity context token =>
      obtain ⟨reports, ran⟩ := runIn_validateIdentity service context token world
      unfold moment perform
      simp only [ran]
      exact ⟨reflects_of_withReports inMemory reports rfl (Moment.not_revokes rfl rfl), sound,
        inMemory⟩
  | validateRefresh context token =>
      obtain ⟨reports, ran⟩ := runIn_validateRefresh service context token world
      unfold moment perform
      simp only [ran]
      exact ⟨reflects_of_withReports inMemory reports rfl (Moment.not_revokes rfl rfl), sound,
        inMemory⟩
  | signOut context user =>
      unfold moment perform
      cases refusal : service.signOutRefusal? context user world with
      | some error =>
          obtain ⟨reports, ran⟩ := runIn_signOut_of_refused sound refusal
          simp only [ran]
          exact ⟨reflects_of_withReports inMemory reports rfl (Moment.not_revokes rfl rfl), sound,
            inMemory⟩
      | none =>
          obtain ⟨reports, ran⟩ := runIn_signOut sound refusal
          have frame := world.frame_clearing user
          simp only [ran]
          exact ⟨.of_signOut (signOutRefusal?_eq_none_iff.mp refusal).1 inMemory reports,
            frame.faults.trans sound, frame.inMemory.mpr inMemory⟩
  | advance milliseconds =>
      exact ⟨.of_quiet inMemory rfl (Moment.not_revokes rfl rfl)
        (Int.le_add_of_nonneg_right (Int.natCast_nonneg milliseconds)) (.refl _ _), sound, inMemory⟩
  | raise signals =>
      exact ⟨.of_quiet inMemory rfl (Moment.not_revokes rfl rfl) (Int.le_refl _) (.refl _ _), sound,
        inMemory⟩

end TokenService

open Store

variable {service : TokenService} {history : List Moment} {world : World}

/-- Whether the entries that count in a world are the standing tokens of a history. -/
structure Accounts (service : TokenService) (history : List Moment) (world : World) : Prop where
  sound : world.faults = {}
  inMemory : world.store.InMemory
  parts : ∀ user token deadline, Stands service history user token deadline →
    StoreKey.isPart user = true ∧ StoreKey.isPart token = true
  live : ∀ user token deadline, StoreKey.isPart user = true → StoreKey.isPart token = true →
    (world.store.liveDeadline? world.clock (StoreKey.join user token) = some deadline ↔
      Stands service history user token deadline ∧ deadline.isAhead world.clock = true)
  keys : ∀ key, world.store.IsLive world.clock key → ∃ user token,
    (StoreKey.isPart user = true ∧ StoreKey.isPart token = true) ∧ key = StoreKey.join user token

theorem Accounts.of_empty (sound : world.faults = {}) (empty : world.store = .memory .empty) :
    Accounts service [] world where
  sound := sound
  inMemory := by
    rw [empty]
    trivial
  parts := fun _ _ _ stands => absurd stands not_stands_nil
  live := by
    intro user token deadline _ _
    have absent : world.store.liveDeadline? world.clock (StoreKey.join user token) = none := by
      rw [empty]
      rfl
    simp [absent, not_stands_nil]
  keys := by
    intro key live
    rw [empty] at live
    exact absurd live
      (by simp [IsLive, MemoryStore.liveDeadline?, MemoryStore.empty, Table.find?])

theorem Accounts.step {moment : Moment} (accounts : Accounts service history moment.before)
    (reflects : moment.Reflects service) (sound : moment.after.faults = {})
    (inMemory : moment.after.store.InMemory) :
    Accounts service (history ++ [moment]) moment.after where
  sound := sound
  inMemory := inMemory
  parts := by
    intro user token deadline stands
    rcases stands_append_singleton_iff.mp stands with registered | ⟨stood, -⟩
    · exact reflects.parts _ registered
    · exact accounts.parts _ _ _ stood
  live := by
    intro user token deadline userPart tokenPart
    rw [reflects.live user token deadline userPart tokenPart,
      accounts.live user token deadline userPart tokenPart, stands_append_singleton_iff]
    constructor
    · rintro ⟨registered | ⟨⟨stood, -⟩, kept⟩, ahead⟩
      · exact ⟨.inl registered, ahead⟩
      · exact ⟨.inr ⟨stood, kept⟩, ahead⟩
    · rintro ⟨registered | ⟨stood, kept⟩, ahead⟩
      · exact ⟨.inl registered, ahead⟩
      · exact ⟨.inr ⟨⟨stood, stood.isAhead_of_later reflects.forward ahead⟩, kept⟩, ahead⟩
  keys := by
    intro key live
    rcases reflects.keys key live with before | ⟨registration, registered, isKey⟩
    · exact accounts.keys key before
    · exact ⟨_, _, reflects.parts _ registered, isKey⟩

/-- A token counts when it stands and its time has not run out, whatever texts are asked for. -/
theorem Accounts.isLive_iff (accounts : Accounts service history world) (user token : Text) :
    world.IsLive user token ↔
      ∃ deadline, Stands service history user token deadline ∧
        deadline.isAhead world.clock = true := by
  constructor
  · intro live
    obtain ⟨owner, id, ⟨ownerPart, idPart⟩, isKey⟩ := accounts.keys _ live
    obtain ⟨rfl, rfl⟩ := (StoreKey.join_eq_join_iff ownerPart idPart user token).mp isKey
    obtain ⟨deadline, found⟩ := (Store.isLive_iff _ _ _).mp live
    exact ⟨deadline, (accounts.live _ _ _ ownerPart idPart).mp found⟩
  · rintro ⟨deadline, stands, ahead⟩
    obtain ⟨userPart, tokenPart⟩ := accounts.parts _ _ _ stands
    exact (Store.isLive_iff _ _ _).mpr
      ⟨deadline, (accounts.live _ _ _ userPart tokenPart).mpr ⟨stands, ahead⟩⟩

/-- The assumptions on the identifiers of a run: none is drawn twice, and no call is given the one
as previous that it draws itself. -/
structure DrawsFresh (history : List Moment) : Prop where
  distinct : (history.filterMap Moment.minted?).Nodup
  notPrevious : ∀ moment ∈ history, ∀ id, moment.minted? = some id →
    moment.step.previous? ≠ some id.text

theorem DrawsFresh.of_append {later : List Moment} (fresh : DrawsFresh (history ++ later)) :
    DrawsFresh history where
  distinct := nodup_minted_of_append fresh.distinct
  notPrevious := fun earlier membership =>
    fresh.notPrevious earlier (List.mem_append_left _ membership)

theorem Accounts.reflects (accounts : Accounts service history world) (step : Step)
    (fresh : DrawsFresh (history ++ [service.moment step world])) :
    (service.moment step world).Reflects service ∧
      (service.moment step world).after.faults = {} ∧
      (service.moment step world).after.store.InMemory := by
  refine TokenService.reflects_moment step accounts.sound accounts.inMemory ?_
    (fresh.notPrevious _ (by simp))
  intro id minted user live
  obtain ⟨deadline, stands, -⟩ := (accounts.isLive_iff user id.text).mp live
  obtain ⟨earlier, inHistory, sameText⟩ := stands.exists_minted
  rw [TokenId.text_inj] at sameText
  exact notMem_of_minted fresh.distinct minted (sameText ▸ inHistory)

/-- A consumed token stands until then, and its time has not run out. -/
theorem Accounts.stands_of_consumed {moment : Moment}
    (accounts : Accounts service history moment.before) (reflects : moment.Reflects service)
    {user token : Text} (consumed : moment.consumed? = some (user, token)) :
    ∃ deadline, Stands service history user token deadline ∧
      deadline.isAhead moment.after.clock = true := by
  obtain ⟨⟨userPart, tokenPart⟩, live⟩ := reflects.consumes user token consumed
  obtain ⟨deadline, found⟩ := (Store.isLive_iff _ _ _).mp live
  obtain ⟨foundBefore, ahead⟩ :=
    (liveDeadline?_later_eq_some_iff accounts.inMemory reflects.forward _ _).mp found
  exact ⟨deadline, ((accounts.live _ _ _ userPart tokenPart).mp foundBefore).1, ahead⟩

/-! ### Runs -/

/-- Whether the tokens that a history consumes stand until then and never again. -/
structure ConsumesOnce (service : TokenService) (history : List Moment) : Prop where
  stood : ∀ earlier use later user token, history = earlier ++ use :: later →
    use.consumed? = some (user, token) →
      ∃ deadline, Stands service earlier user token deadline ∧
        deadline.isAhead use.after.clock = true
  spent : ∀ use ∈ history, ∀ user token, use.consumed? = some (user, token) →
    ∀ owner deadline, ¬Stands service history owner token deadline
  once : history.Pairwise fun first second => ∀ user owner token,
    first.consumed? = some (user, token) → second.consumed? ≠ some (owner, token)

theorem ConsumesOnce.of_nil : ConsumesOnce service [] where
  stood := by simp
  spent := by simp
  once := .nil

theorem ConsumesOnce.exists_minted (consumesOnce : ConsumesOnce service history) {use : Moment}
    (membership : use ∈ history) {user token : Text}
    (consumed : use.consumed? = some (user, token)) :
    ∃ id ∈ history.filterMap Moment.minted?, id.text = token := by
  obtain ⟨earlier, later, rfl⟩ := List.append_of_mem membership
  obtain ⟨deadline, stands, -⟩ := consumesOnce.stood earlier use later user token rfl consumed
  obtain ⟨id, minted, isToken⟩ := stands.exists_minted
  exact ⟨id, by simp only [List.filterMap_append]; exact List.mem_append_left _ minted, isToken⟩

theorem ConsumesOnce.step {moment : Moment} (consumesOnce : ConsumesOnce service history)
    (distinct : ((history ++ [moment]).filterMap Moment.minted?).Nodup)
    (stands : ∀ user token, moment.consumed? = some (user, token) →
      ∃ deadline, Stands service history user token deadline ∧
        deadline.isAhead moment.after.clock = true) :
    ConsumesOnce service (history ++ [moment]) where
  stood := by
    intro earlier use later user token split consumed
    rcases List.eq_nil_or_concat later with rfl | ⟨between, last, rfl⟩
    · obtain ⟨rfl, same⟩ := List.append_inj' split rfl
      rw [← List.singleton_inj.mp same] at consumed ⊢
      exact stands user token consumed
    · rw [List.concat_eq_append, ← List.cons_append, ← List.append_assoc] at split
      obtain ⟨rfl, -⟩ := List.append_inj' split rfl
      exact consumesOnce.stood earlier use between user token rfl consumed
  spent := by
    intro use membership user token consumed owner deadline standing
    rcases stands_append_singleton_iff.mp standing with registered | ⟨stood, kept⟩ <;>
      rcases List.mem_append.mp membership with earlier | isLast
    · -- A token that was consumed earlier was minted earlier, and is not minted again.
      obtain ⟨id, minted, isToken⟩ := Moment.exists_minted_of_registration registered
      obtain ⟨consumedId, inHistory, isConsumed⟩ := consumesOnce.exists_minted earlier consumed
      have same : id = consumedId := TokenId.text_injective (isToken.trans isConsumed.symm)
      exact notMem_of_minted distinct minted (same ▸ inHistory)
    · rw [List.mem_singleton.mp isLast] at consumed
      obtain ⟨_, stood, -⟩ := stands user token consumed
      exact not_stands_of_registered distinct registered stood
    · exact consumesOnce.spent use earlier user token consumed owner deadline stood
    · rw [List.mem_singleton.mp isLast] at consumed
      obtain ⟨_, alsoStood, -⟩ := stands user token consumed
      obtain ⟨rfl, -⟩ := alsoStood.unique (nodup_minted_of_append distinct) stood
      exact kept (.inl consumed)
  once := by
    refine List.pairwise_append.mpr ⟨consumesOnce.once, List.pairwise_singleton _ _, ?_⟩
    intro first membership last isLast user owner token consumed again
    rw [List.mem_singleton.mp isLast] at again
    obtain ⟨deadline, stood, -⟩ := stands owner token again
    exact consumesOnce.spent first membership user token consumed owner deadline stood

/-- Every run from an empty memory store keeps the account and consumes each token once. -/
theorem accounts_of_run {start : World} (sound : start.faults = {})
    (empty : start.store = .memory .empty) (steps : List Step)
    (fresh : DrawsFresh (service.history start steps)) :
    Accounts service (service.history start steps) (service.worldAfter start steps) ∧
      ConsumesOnce service (service.history start steps) := by
  induction steps using List.reverseRecOn with
  | nil => exact ⟨.of_empty sound empty, .of_nil⟩
  | append_singleton steps step inductionHypothesis =>
      rw [TokenService.history_append_singleton] at fresh ⊢
      rw [TokenService.worldAfter_append_singleton]
      obtain ⟨accounts, consumesOnce⟩ := inductionHypothesis fresh.of_append
      obtain ⟨reflects, stillSound, stillInMemory⟩ := accounts.reflects step fresh
      exact ⟨Accounts.step accounts reflects stillSound stillInMemory,
        consumesOnce.step fresh.distinct fun _ _ => Accounts.stands_of_consumed accounts reflects⟩

/-- After every initial part of a run from an empty memory store, the tokens that count are those
that some call registered and that since then no call consumed, no sign-out revoked and no deadline
ended.  A deadline is ahead while less than the registered seconds have passed and behind once more
have; the clock may be read as earlier at the very millisecond at which they end.  In the whole run
a token is consumed at most once, and by its user only, after it was registered, before its deadline
and with no sign-out in between. -/
theorem TokenService.standing_of_run (service : TokenService) {start : World}
    (sound : start.faults = {}) (empty : start.store = .memory .empty) (steps : List Step)
    (fresh : DrawsFresh (service.history start steps)) :
    (∀ earlier, earlier <+: steps → ∀ user token,
      (service.worldAfter start earlier).IsLive user token ↔ ∃ deadline,
        Stands service (service.history start earlier) user token deadline ∧
          deadline.isAhead (service.worldAfter start earlier).clock = true) ∧
    (∀ issue ∈ service.history start steps, ∀ registration,
      issue.registration? service = some registration → ∃ lifespan,
        Claims.Lifespan.starting? issue.before.clock.wall service.policy.refreshLifetime =
          some lifespan ∧
        registration.deadline.EndsAfter issue.before.clock
          (Duration.storeSeconds (lifespan.expiresAt - issue.before.clock.wall))) ∧
    ((service.history start steps).Pairwise fun first second => ∀ user owner token,
      first.consumed? = some (user, token) → second.consumed? ≠ some (owner, token)) ∧
    (∀ earlier use later user token, service.history start steps = earlier ++ use :: later →
      use.consumed? = some (user, token) →
        (∃ deadline, Stands service earlier user token deadline) ∧
        ∀ before issue between owner deadline, earlier = before ++ issue :: between →
          issue.registration? service = some ⟨owner, token, deadline⟩ →
            owner = user ∧ deadline.isAhead use.after.clock = true ∧
              ∀ next ∈ between, ¬next.Revokes user token) := by
  obtain ⟨-, consumesOnce⟩ := accounts_of_run sound empty steps fresh
  refine ⟨?_, ?_, consumesOnce.once, ?_⟩
  · rintro earlier ⟨later, rfl⟩ user token
    rw [history_append] at fresh
    exact (accounts_of_run sound empty earlier fresh.of_append).1.isLive_iff user token
  · intro issue _ registration registered
    obtain ⟨lifespan, begins, isDeadline⟩ := Moment.deadline_of_registration registered
    refine ⟨lifespan, begins, ?_⟩
    rw [isDeadline]
    exact Deadline.endsAfter_ticking _ (Duration.one_le_storeSeconds _)
  · intro earlier use later user token split consumed
    obtain ⟨deadline, stands, ahead⟩ :=
      consumesOnce.stood earlier use later user token split consumed
    refine ⟨⟨deadline, stands⟩, ?_⟩
    rintro before issue between owner ended rfl registered
    rw [split] at fresh
    obtain ⟨isUser, rfl, kept⟩ :=
      stands.of_registered registered (nodup_minted_of_append fresh.distinct)
    exact ⟨isUser, ahead, kept⟩

/-- A run in which a token is rotated, named once more in vain, and its successor signed out. -/
theorem TokenService.standing_of_sample_run :
    let steps : List Step :=
      [.newPair none { id := "u" } [] 0 [], .advance 1000,
        .newPair none { id := "u" } (TokenId.numbered 1).text 20 [],
        .newPair none { id := "u" } (TokenId.numbered 1).text 0 [], .signOut none "u"]
    (World.sample.faults = {} ∧ World.sample.store = .memory .empty ∧
        DrawsFresh (sample.history .sample steps)) ∧
      (sample.history .sample steps).filterMap Moment.consumed? =
        [(("u" : Text), (TokenId.numbered 1).text)] ∧
      ∀ earlier, earlier <+: steps → ∀ user token,
        (sample.worldAfter .sample earlier).IsLive user token ↔ ∃ deadline,
          Stands sample (sample.history .sample earlier) user token deadline ∧
            deadline.isAhead (sample.worldAfter .sample earlier).clock = true := by
  intro steps
  have fresh : DrawsFresh (sample.history .sample steps) :=
    ⟨by decide +kernel, by decide +kernel⟩
  have consumed : (sample.history .sample steps).filterMap Moment.consumed? =
      [(("u" : Text), (TokenId.numbered 1).text)] := by decide +kernel
  exact ⟨⟨rfl, rfl, fresh⟩, consumed, (sample.standing_of_run rfl rfl steps fresh).1⟩

/-- Two seconds after its registration for two seconds a token may still count, although it does not
stand any more by the milliseconds that have passed. -/
theorem TokenService.standing_past_its_seconds :
    let steps : List Step := [.newPair none { id := "u" } [] 0 [], .advance 2000]
    let history := twoSeconds.history .uneven steps
    (World.uneven.faults = {} ∧ World.uneven.store = .memory .empty ∧ DrawsFresh history) ∧
      ¬∀ user token, (twoSeconds.worldAfter .uneven steps).IsLive user token ↔
        ∃ deadline, Stands twoSeconds history user token deadline ∧
          ∃ issue ∈ history, issue.registration? twoSeconds = some ⟨user, token, deadline⟩ ∧
            ∃ lifespan, Claims.Lifespan.starting? issue.before.clock.wall
                twoSeconds.policy.refreshLifetime = some lifespan ∧
              (twoSeconds.worldAfter .uneven steps).clock.ticks < issue.before.clock.ticks +
                Duration.storeSeconds (lifespan.expiresAt - issue.before.clock.wall) * 1000 := by
  intro steps history
  have fresh : DrawsFresh history := ⟨by decide +kernel, by decide +kernel⟩
  have counts : (twoSeconds.worldAfter .uneven steps).IsLive "u" (TokenId.numbered 1).text := by
    decide +kernel
  have begun : ∀ issue ∈ history, issue.before.clock = World.uneven.clock := by decide +kernel
  have twoLeft : (Claims.Lifespan.starting? World.uneven.clock.wall
      twoSeconds.policy.refreshLifetime).map (fun lifespan =>
        Duration.storeSeconds (lifespan.expiresAt - World.uneven.clock.wall)) = some 2 := by
    decide +kernel
  have passed : (twoSeconds.worldAfter .uneven steps).clock.ticks =
      World.uneven.clock.ticks + 2 * 1000 := by
    decide +kernel
  refine ⟨⟨rfl, rfl, fresh⟩, fun agrees => ?_⟩
  obtain ⟨deadline, -, issue, membership, -, lifespan, begins, within⟩ :=
    (agrees "u" (TokenId.numbered 1).text).mp counts
  rw [begun issue membership] at begins within
  rw [begins, Option.map_some, Option.some.injEq] at twoLeft
  omega

end TokenAuthority
