import TokenAuthority.Proofs.Service.Alignment
import TokenAuthority.Proofs.Service.Run

/-!
The two kinds of stores are interchangeable.

Two worlds match when they differ in their stores only and these are aligned.  Every operation on
matched worlds answers alike and leaves matched worlds behind, as long as its texts can be encoded
and no entry ends at the very instant at which the operation begins or ends.  Hence whole runs over
a memory store and over a key server tell the same.  What cannot be encoded tells the two apart: it
is registered in memory and ends the call over a key server.
-/

namespace TokenAuthority

open Call

/-- Whether two worlds differ only in their stores, and these hold the same entries. -/
structure Matched (first second : World) : Prop where
  clock : first.clock = second.clock
  raised : first.raised = second.raised
  ids : first.ids = second.ids
  tokensDrawn : first.tokensDrawn = second.tokensDrawn
  duringPut : first.duringPut = second.duringPut
  sound : first.faults = {} ∧ second.faults = {}
  stores : Store.Aligned second.clock first.store second.store

/-- Whether two results tell the same and leave matched worlds behind. -/
structure Agree {α : Type} (first second : Except Failure α × World) : Prop where
  outcome : first.1 = second.1
  matched : Matched first.2 second.2

namespace Matched

variable {first second : World} (matched : Matched first second)

include matched

theorem withReports (reports otherReports : List Log.Event) :
    Matched (first.withReports reports) (second.withReports otherReports) :=
  ⟨matched.clock, matched.raised, matched.ids, matched.tokensDrawn, matched.duringPut,
    matched.sound, matched.stores⟩

theorem drawing : Matched first.drawing second.drawing :=
  ⟨matched.clock, matched.raised, matched.ids, congrArg (· + 1) matched.tokensDrawn,
    matched.duringPut, matched.sound, matched.stores⟩

theorem disturbed (elapsed : Nat) (raised : List Signal) :
    Matched (first.disturbed elapsed raised) (second.disturbed elapsed raised) :=
  ⟨matched.clock, matched.raised, matched.ids, matched.tokensDrawn, rfl,
    matched.sound, matched.stores⟩

theorem advance {milliseconds : Int} (forward : 0 ≤ milliseconds)
    (inStep : second.clock.InStep (second.clock.advance milliseconds)) :
    Matched (first.advance milliseconds) (second.advance milliseconds) :=
  ⟨congrArg (·.advance milliseconds) matched.clock, matched.raised, matched.ids,
    matched.tokensDrawn, matched.duringPut, matched.sound,
    matched.stores.advance forward inStep⟩

theorem raise (signals : List Signal) :
    Matched { first with raised := signals ++ first.raised }
      { second with raised := signals ++ second.raised } :=
  ⟨matched.clock, congrArg (signals ++ ·) matched.raised, matched.ids, matched.tokensDrawn,
    matched.duringPut, matched.sound, matched.stores⟩

theorem disturb (forward : 0 ≤ second.duringPut.elapsed)
    (inStep : second.clock.InStep (second.clock.advance second.duringPut.elapsed)) :
    Matched (StoreAccess.disturb first) (StoreAccess.disturb second) where
  clock := by
    show first.clock.advance first.duringPut.elapsed = second.clock.advance second.duringPut.elapsed
    rw [matched.clock, matched.duringPut]
  raised := by
    show first.duringPut.raised ++ first.raised = second.duringPut.raised ++ second.raised
    rw [matched.raised, matched.duringPut]
  ids := matched.ids
  tokensDrawn := matched.tokensDrawn
  duringPut := matched.duringPut
  sound := matched.sound
  stores := matched.stores.advance forward inStep

theorem registering (forward : 0 ≤ second.duringPut.elapsed)
    (inStep : second.clock.InStep (second.clock.advance second.duringPut.elapsed))
    (user token : Text) (lifetime : Int) :
    Matched (first.registering user token lifetime) (second.registering user token lifetime) := by
  refine disturb ?_ forward inStep
  refine ⟨matched.clock, matched.raised, matched.ids, matched.tokensDrawn,
    matched.duringPut, matched.sound, ?_⟩
  rw [matched.clock]
  exact matched.stores.register _ (Duration.one_le_storeSeconds lifetime)

theorem removing (user token : Text) :
    Matched (first.removing user token) (second.removing user token) :=
  ⟨matched.clock, matched.raised, matched.ids, matched.tokensDrawn, matched.duringPut,
    matched.sound, matched.stores.remove _⟩

theorem clearing (user : Text) : Matched (first.clearing user) (second.clearing user) := by
  refine ⟨matched.clock, matched.raised, matched.ids, matched.tokensDrawn, matched.duringPut,
    matched.sound, ?_⟩
  unfold World.clearing
  rw [matched.clock]
  exact matched.stores.clear _

theorem touching {user token : Text}
    (later : ¬second.store.EndsNow second.clock (StoreKey.join user token)) :
    Matched (first.touching user token) (second.touching user token) := by
  refine ⟨matched.clock, matched.raised, matched.ids, matched.tokensDrawn, matched.duringPut,
    matched.sound, ?_⟩
  unfold World.touching
  rw [matched.clock]
  exact matched.stores.touch later

/-- Away from its deadline a token counts in both worlds or in none. -/
theorem isLive_iff {user token : Text}
    (later : ¬second.store.EndsNow second.clock (StoreKey.join user token)) :
    first.IsLive user token ↔ second.IsLive user token := by
  unfold World.IsLive Store.IsLive
  rw [matched.clock, matched.stores.isSome_live_eq later]

/-! ### Single accesses -/

theorem agree_put (forward : 0 ≤ second.duringPut.elapsed) {user token : Text} {lifetime : Int}
    (encodable : (StoreKey.join user token).isEncodable = true)
    (inStep : second.clock.InStep
      (runIn (StoreAccess.put user token lifetime) second).2.clock) :
    Agree (runIn (StoreAccess.put user token lifetime) first)
      (runIn (StoreAccess.put user token lifetime) second) := by
  rcases StoreKey.isPart_or_make_eq_error user token with ⟨userPart, tokenPart⟩ | ⟨error, refused⟩
  · rw [StoreAccess.runIn_put userPart tokenPart lifetime
      (StoreAccess.registeringFailure?_eq_none matched.sound.2
        (Store.takes_of_isEncodable encodable _))] at inStep ⊢
    rw [StoreAccess.runIn_put userPart tokenPart lifetime
      (StoreAccess.registeringFailure?_eq_none matched.sound.1
        (Store.takes_of_isEncodable encodable _))]
    exact ⟨rfl, matched.registering forward inStep user token lifetime⟩
  · rw [StoreAccess.runIn_put_of_refused matched.sound.1 refused,
      StoreAccess.runIn_put_of_refused matched.sound.2 refused]
    exact ⟨rfl, matched⟩

theorem agree_delete {user token : Text}
    (encodable : (StoreKey.join user token).isEncodable = true)
    (later : ¬second.store.EndsNow second.clock (StoreKey.join user token)) :
    Agree (runIn (StoreAccess.delete user token) first)
      (runIn (StoreAccess.delete user token) second) := by
  rcases StoreKey.isPart_or_make_eq_error user token with ⟨userPart, tokenPart⟩ | ⟨error, refused⟩
  · rw [StoreAccess.runIn_delete userPart tokenPart
        (StoreAccess.removingFails_of_no_faults matched.sound.1 _)
        (Store.takes_of_isEncodable encodable _),
      StoreAccess.runIn_delete userPart tokenPart
        (StoreAccess.removingFails_of_no_faults matched.sound.2 _)
        (Store.takes_of_isEncodable encodable _)]
    exact ⟨congrArg Except.ok (if_congr (matched.isLive_iff later) rfl rfl),
      matched.removing user token⟩
  · rw [StoreAccess.runIn_delete_of_refused matched.sound.1 refused,
      StoreAccess.runIn_delete_of_refused matched.sound.2 refused]
    exact ⟨rfl, matched⟩

theorem agree_deleteAll {user : Text} (encodable : user.isEncodable = true)
    (later : ∀ key, ¬second.store.EndsNow second.clock key) :
    Agree (runIn (StoreAccess.deleteAll user) first)
      (runIn (StoreAccess.deleteAll user) second) := by
  rcases StoreKey.isPart_or_start_eq_error user with userPart | ⟨error, refused⟩
  · rw [StoreAccess.runIn_deleteAll userPart matched.sound.1
        (Store.takes_of_isEncodable encodable _),
      StoreAccess.runIn_deleteAll userPart matched.sound.2
        (Store.takes_of_isEncodable encodable _), matched.clock,
      matched.stores.countFrom_eq _ later]
    exact ⟨rfl, matched.clearing user⟩
  · rw [StoreAccess.runIn_deleteAll_of_refused refused,
      StoreAccess.runIn_deleteAll_of_refused refused]
    exact ⟨rfl, matched⟩

theorem agree_contains {user token : Text}
    (encodable : (StoreKey.join user token).isEncodable = true)
    (later : ¬second.store.EndsNow second.clock (StoreKey.join user token)) :
    Agree (runIn (StoreAccess.contains user token) first)
      (runIn (StoreAccess.contains user token) second) := by
  rcases StoreKey.isPart_or_make_eq_error user token with ⟨userPart, tokenPart⟩ | ⟨error, refused⟩
  · rw [StoreAccess.runIn_contains userPart tokenPart matched.sound.1
        (Store.takes_of_isEncodable encodable _),
      StoreAccess.runIn_contains userPart tokenPart matched.sound.2
        (Store.takes_of_isEncodable encodable _), matched.clock,
      matched.stores.isSome_live_eq later]
    exact ⟨rfl, matched.touching later⟩
  · rw [StoreAccess.runIn_contains_of_refused refused,
      StoreAccess.runIn_contains_of_refused refused]
    exact ⟨rfl, matched⟩

/-! ### Calls of the service -/

theorem agree_validate {α : Type} (service : TokenService) (context : Option Context)
    (kind : TokenKind) (check : Int → Verdict α) :
    Agree (runIn (service.validate context kind check) first)
      (runIn (service.validate context kind check) second) := by
  obtain ⟨reports, ran⟩ := service.runIn_validate context kind check first
  obtain ⟨otherReports, otherRan⟩ := service.runIn_validate context kind check second
  rw [ran, otherRan]
  refine ⟨?_, matched.withReports _ _⟩
  unfold TokenService.validated
  rw [matched.clock, matched.raised]

theorem agree_signOut (service : TokenService) (context : Option Context) {user : Text}
    (encodable : user.isEncodable = true)
    (later : ∀ key, ¬second.store.EndsNow second.clock key) :
    Agree (runIn (service.signOut context user) first)
      (runIn (service.signOut context user) second) := by
  have sameRefusal : service.signOutRefusal? context user first =
      service.signOutRefusal? context user second := by
    unfold TokenService.signOutRefusal?
    rw [matched.clock, matched.raised, Store.takes_of_isEncodable encodable,
      Store.takes_of_isEncodable encodable]
  cases refusal : service.signOutRefusal? context user second with
  | some error =>
      obtain ⟨reports, ran⟩ :=
        TokenService.runIn_signOut_of_refused matched.sound.1 (sameRefusal.trans refusal)
      obtain ⟨otherReports, otherRan⟩ :=
        TokenService.runIn_signOut_of_refused matched.sound.2 refusal
      rw [ran, otherRan]
      exact ⟨rfl, matched.withReports _ _⟩
  | none =>
      obtain ⟨reports, ran⟩ :=
        TokenService.runIn_signOut matched.sound.1 (sameRefusal.trans refusal)
      obtain ⟨otherReports, otherRan⟩ := TokenService.runIn_signOut matched.sound.2 refusal
      rw [ran, otherRan, matched.clock, matched.stores.countFrom_eq _ later]
      exact ⟨rfl, (matched.clearing user).withReports _ _⟩

theorem registeredIn (forward : 0 ≤ second.duringPut.elapsed)
    (inStep : second.clock.InStep (second.clock.advance second.duringPut.elapsed))
    (issued : RefreshToken) (user : Text) :
    Matched (issued.registeredIn user first) (issued.registeredIn user second) := by
  unfold RefreshToken.registeredIn
  rw [matched.clock]
  exact matched.registering forward inStep _ _ _

theorem rollingBack (user token : Text) :
    Matched (first.rollingBack user token) (second.rollingBack user token) := by
  unfold World.rollingBack
  rw [StoreAccess.removingFails_of_no_faults matched.sound.1,
    StoreAccess.removingFails_of_no_faults matched.sound.2]
  exact matched.removing user token

theorem hasExpired_eq (context : Context) :
    context.hasExpired first.clock first.raised =
      context.hasExpired second.clock second.raised := by
  rw [matched.clock, matched.raised]

/-- Tokens settle alike in matched worlds, unless the previous one ends as it is removed. -/
theorem settles (forward : 0 ≤ second.duringPut.elapsed) {context : Context}
    {user previous : Text} {issued : RefreshToken} {after : World} {outcome : Except Failure Unit}
    (encodable : user.isEncodable = true)
    (settles : TokenService.Settles context user previous issued second outcome after)
    (inStep : second.clock.InStep after.clock)
    (later : ¬(issued.registeredIn user second).store.EndsNow after.clock
      (StoreKey.join user previous)) :
    ∃ other, TokenService.Settles context user previous issued first outcome other ∧
      Matched other after := by
  have taken : ∀ store : Store, store.takes (StoreKey.join user issued.id.text) = true :=
    fun store => (store.takes_join_text user issued.id).trans
      (Store.takes_of_isEncodable encodable store)
  have registers := StoreAccess.registeringFailure?_eq_none matched.sound.1 (taken first.store)
  have removes := fun key => StoreAccess.removingFails_of_no_faults matched.sound.1 key
  have active := matched.hasExpired_eq context
  cases settles with
  | late expired => exact ⟨first, .late (active.trans expired), matched⟩
  | unregistered _ fails =>
      rw [StoreAccess.registeringFailure?_eq_none matched.sound.2 (taken second.store)] at fails
      cases fails
  | begun isActive _ isFirst =>
      exact ⟨_, .begun (active.trans isActive) registers isFirst,
        matched.registeredIn forward inStep issued user⟩
  | orphaned isActive _ follows expired =>
      have registered := matched.registeredIn forward inStep issued user
      exact ⟨_, .orphaned (active.trans isActive) registers follows
        ((registered.hasExpired_eq context).trans expired), registered⟩
  | unremoved _ _ _ _ fails =>
      rw [StoreAccess.removingFails_of_no_faults matched.sound.2] at fails
      cases fails
  | missing isActive _ follows isStillActive _ absent =>
      rw [World.clock_rollingBack, World.clock_removing] at inStep later
      have registered := matched.registeredIn forward inStep issued user
      exact ⟨_, .missing (active.trans isActive) registers follows
        ((registered.hasExpired_eq context).trans isStillActive) (removes _)
        (mt (registered.isLive_iff later).mp absent),
        (registered.removing user previous).rollingBack _ _⟩
  | rotated isActive _ follows isStillActive _ present =>
      rw [World.clock_removing] at inStep later
      have registered := matched.registeredIn forward inStep issued user
      exact ⟨_, .rotated (active.trans isActive) registers follows
        ((registered.hasExpired_eq context).trans isStillActive) (removes _)
        ((registered.isLive_iff later).mpr present), registered.removing user previous⟩

theorem mint_eq (service : TokenService) (user : Text) :
    service.mint user first = service.mint user second := by
  unfold TokenService.mint World.nextId
  rw [matched.ids, matched.tokensDrawn, matched.clock]

theorem ends (forward : 0 ≤ second.duringPut.elapsed) {service : TokenService}
    {context : Option Context} {user : UserSnapshot} {previous : Text} {after : World}
    {outcome : Except Failure TokenPair}
    (encodable : user.id.isEncodable = true)
    (ends : TokenService.Ends service context user previous second outcome after)
    (inStep : second.clock.InStep after.clock)
    (later : ∀ issued, service.mint user.id second = .ok issued →
      after.tokensDrawn ≠ second.tokensDrawn →
        ¬(issued.addedTo user.id second).EndsNow after.clock (StoreKey.join user.id previous)) :
    ∃ other, TokenService.Ends service context user previous first outcome other ∧
      Matched other after := by
  have sameMint := matched.mint_eq service user.id
  cases ends with
  | refused refusal =>
      rw [← matched.clock] at refusal
      exact ⟨first, .refused refusal, matched⟩
  | unminted admitted failed =>
      rw [← matched.clock] at admitted
      exact ⟨first.drawing, .unminted admitted (sameMint.trans failed), matched.drawing⟩
  | @settled identity issued result _ admitted minted settles =>
      have drawn : after.tokensDrawn ≠ second.tokensDrawn := by
        rw [settles.frame.tokensDrawn]
        exact Nat.succ_ne_self _
      rw [← matched.clock] at admitted
      obtain ⟨other, otherSettles, otherMatched⟩ :=
        matched.drawing.settles forward encodable settles inStep (later issued minted drawn)
      exact ⟨other, .settled admitted (sameMint.trans minted) otherSettles, otherMatched⟩

theorem agree_newPair (forward : 0 ≤ second.duringPut.elapsed) (service : TokenService)
    (context : Option Context) {user : UserSnapshot} (encodable : user.id.isEncodable = true)
    (previous : Text)
    (inStep : second.clock.InStep
      (runIn (service.newPair context user previous) second).2.clock)
    (later : ∀ issued, service.mint user.id second = .ok issued →
      (runIn (service.newPair context user previous) second).2.tokensDrawn ≠ second.tokensDrawn →
        ¬(issued.addedTo user.id second).EndsNow
          (runIn (service.newPair context user previous) second).2.clock
          (StoreKey.join user.id previous)) :
    Agree (runIn (service.newPair context user previous) first)
      (runIn (service.newPair context user previous) second) := by
  obtain ⟨outcome, after, reports, ends, ran⟩ := service.runIn_newPair context user previous first
  obtain ⟨otherOutcome, otherAfter, otherReports, otherEnds, otherRan⟩ :=
    service.runIn_newPair context user previous second
  rw [otherRan] at inStep later
  obtain ⟨transferred, transferredEnds, stillMatched⟩ :=
    matched.ends forward encodable otherEnds inStep later
  obtain ⟨rfl, rfl⟩ := ends.unique transferredEnds
  rw [ran, otherRan]
  exact ⟨rfl, stillMatched.withReports _ _⟩

end Matched

/-! ### Operations -/

/-- What can be asked of the service and of its store. -/
inductive Operation where
  | step (step : Step)
  /-- A registration, with the milliseconds that pass and the signals that are raised meanwhile. -/
  | put (user token : Text) (lifetime : Int) (elapsed : Nat) (raised : List Signal)
  | delete (user token : Text)
  | deleteAll (user : Text)
  | contains (user token : Text)

/-- What an operation asks of the store, if anything: for a key, or for the keys of a user. -/
def Operation.asked? : Operation → Option Text
  | .step (.newPair _ user _ _ _) => some user.id
  | .step (.signOut _ user) => some user
  | .step _ => none
  | .put user token _ _ _ => some (StoreKey.join user token)
  | .delete user token => some (StoreKey.join user token)
  | .deleteAll user => some user
  | .contains user token => some (StoreKey.join user token)

def Operation.isEncodable (operation : Operation) : Bool :=
  operation.asked?.all Text.isEncodable

/-- What an operation tells. -/
inductive Reply where
  | answer (answer : Answer)
  | registered (outcome : Except Failure Unit)
  | removed (outcome : Except Failure Nat)
  | found (outcome : Except Failure Bool)

/-- An operation with what it tells and the worlds before and after it. -/
structure Passage where
  before : World
  reply : Reply
  after : World

namespace TokenService

variable (service : TokenService)

def operate (operation : Operation) (world : World) : Reply × World :=
  match operation with
  | .step step => (service.perform step world).map .answer id
  | .put user token lifetime elapsed raised =>
      (runIn (StoreAccess.put user token lifetime) (world.disturbed elapsed raised)).map
        .registered id
  | .delete user token => (runIn (StoreAccess.delete user token) world).map .removed id
  | .deleteAll user => (runIn (StoreAccess.deleteAll user) world).map .removed id
  | .contains user token => (runIn (StoreAccess.contains user token) world).map .found id

def passages : World → List Operation → List Passage
  | _, [] => []
  | world, operation :: rest =>
      ⟨world, (service.operate operation world).1, (service.operate operation world).2⟩ ::
        passages (service.operate operation world).2 rest

end TokenService

/-- Whether both clocks advance alike in a passage, and it neither begins nor ends at the deadline
of an entry that is registered before it, after it, or within it. -/
structure Passage.MissesDeadlines (service : TokenService) (passage : Passage) : Prop where
  inStep : passage.before.clock.InStep passage.after.clock
  before : ∀ key, ¬passage.before.store.EndsNow passage.before.clock key ∧
    ¬passage.before.store.EndsNow passage.after.clock key
  after : ∀ key, ¬passage.after.store.EndsNow passage.after.clock key
  within : ∀ user issued, service.mint user passage.before = .ok issued →
    passage.after.tokensDrawn ≠ passage.before.tokensDrawn →
      ¬(issued.addedTo user passage.before).EndsNow passage.after.clock
        (StoreKey.join user issued.id.text)

/-- A passage of less than a second need only keep away from the deadlines in its tables. -/
theorem Passage.MissesDeadlines.of_brief {service : TokenService} {passage : Passage}
    (inStep : passage.before.clock.InStep passage.after.clock)
    (before : .wall passage.before.clock.wall ∉ passage.before.store.deadlines ∧
      .wall passage.after.clock.wall ∉ passage.before.store.deadlines)
    (after : .wall passage.after.clock.wall ∉ passage.after.store.deadlines)
    (brief : passage.after.tokensDrawn = passage.before.tokensDrawn ∨
      passage.after.clock.wall < passage.before.clock.wall + microsecondsPerSecond) :
    passage.MissesDeadlines service where
  inStep := inStep
  before := fun key => ⟨Store.not_endsNow before.1 key, Store.not_endsNow before.2 key⟩
  after := Store.not_endsNow after
  within := by
    intro user issued _ drawn
    rcases brief with undrawn | brief
    · exact absurd undrawn drawn
    · exact Store.not_endsNow_register _ (Duration.one_le_storeSeconds _) brief _

/-- What a call with a previous token looks up misses its deadline, too. -/
theorem Passage.MissesDeadlines.previous {service : TokenService} {passage : Passage}
    (misses : passage.MissesDeadlines service) {user : Text} {issued : RefreshToken}
    (minted : service.mint user passage.before = .ok issued)
    (drawn : passage.after.tokensDrawn ≠ passage.before.tokensDrawn) (previous : Text) :
    ¬(issued.addedTo user passage.before).EndsNow passage.after.clock
      (StoreKey.join user previous) := by
  by_cases own : StoreKey.join user previous = StoreKey.join user issued.id.text
  · rw [own]
    exact misses.within user issued minted drawn
  · unfold RefreshToken.addedTo
    rw [Store.endsNow_register_of_ne _ own]
    exact (misses.before _).2

namespace Matched

variable {service : TokenService} {first second : World} (matched : Matched first second)

include matched

theorem perform {step : Step} (encodable : (Operation.step step).isEncodable = true)
    (misses : Passage.MissesDeadlines service
      ⟨second, .answer (service.perform step second).1, (service.perform step second).2⟩) :
    (service.perform step first).1 = (service.perform step second).1 ∧
      Matched (service.perform step first).2 (service.perform step second).2 := by
  cases step with
  | newPair context user previous elapsed raised =>
      have agree := (matched.disturbed elapsed raised).agree_newPair (Int.natCast_nonneg elapsed)
        service context encodable previous misses.inStep fun issued minted drawn =>
          misses.previous minted drawn previous
      exact ⟨congrArg Answer.pair agree.outcome, agree.matched⟩
  | validateIdentity context token =>
      have agree := matched.agree_validate service context .identity
        fun now => .ofVerified .identity (IdentityToken.verify token service.policy.publicKey now)
      exact ⟨congrArg Answer.identity agree.outcome, agree.matched⟩
  | validateRefresh context token =>
      have agree := matched.agree_validate service context .refresh
        fun now => .ofVerified .refresh (RefreshToken.verify token service.policy.secret now)
      exact ⟨congrArg Answer.refresh agree.outcome, agree.matched⟩
  | signOut context user =>
      have agree := matched.agree_signOut service context encodable fun key => (misses.before key).1
      exact ⟨congrArg Answer.signedOut agree.outcome, agree.matched⟩
  | advance milliseconds =>
      exact ⟨rfl, matched.advance (Int.natCast_nonneg milliseconds) misses.inStep⟩
  | raise signals => exact ⟨rfl, matched.raise signals⟩

theorem operate {operation : Operation} (encodable : operation.isEncodable = true)
    (misses : Passage.MissesDeadlines service ⟨second, (service.operate operation second).1,
      (service.operate operation second).2⟩) :
    (service.operate operation first).1 = (service.operate operation second).1 ∧
      Matched (service.operate operation first).2 (service.operate operation second).2 := by
  cases operation with
  | step step =>
      obtain ⟨answer, stillMatched⟩ := matched.perform encodable
        ⟨misses.inStep, misses.before, misses.after, misses.within⟩
      exact ⟨congrArg Reply.answer answer, stillMatched⟩
  | put user token lifetime elapsed raised =>
      have agree := (matched.disturbed elapsed raised).agree_put (Int.natCast_nonneg elapsed)
        encodable misses.inStep
      exact ⟨congrArg Reply.registered agree.outcome, agree.matched⟩
  | delete user token =>
      have agree := matched.agree_delete encodable (misses.before (StoreKey.join user token)).1
      exact ⟨congrArg Reply.removed agree.outcome, agree.matched⟩
  | deleteAll user =>
      have agree := matched.agree_deleteAll encodable fun key => (misses.before key).1
      exact ⟨congrArg Reply.removed agree.outcome, agree.matched⟩
  | contains user token =>
      have agree := matched.agree_contains encodable (misses.before (StoreKey.join user token)).1
      exact ⟨congrArg Reply.found agree.outcome, agree.matched⟩

end Matched

/-- Whether the same keys count in a world over a memory store and in one over a key server, with
the same milliseconds left to those that have at most 2^39 seconds left. -/
structure SameLife (first second : World) : Prop where
  counts : ∀ key, first.store.IsLive first.clock key ↔ second.store.IsLive second.clock key
  left : ∀ key left, (key, left) ∈ second.remaining → left ≤ 2 ^ 39 * 1000 →
    (key, left) ∈ first.remaining

theorem Matched.sameLife {first second : World} (matched : Matched first second)
    (later : ∀ key, ¬second.store.EndsNow second.clock key) : SameLife first second := by
  constructor
  · intro key
    unfold Store.IsLive
    rw [matched.clock, matched.stores.isSome_live_eq (later key)]
  · obtain ⟨store, server, isStore, isServer, align⟩ := matched.stores.exists_tables
    simp only [isServer, Store.endsNow_remote] at later
    intro key left
    unfold World.remaining
    rw [isStore, isServer, matched.clock]
    exact align.mem_remaining later

theorem Matched.passages {service : TokenService} {first second : World}
    (matched : Matched first second) {operations : List Operation}
    (encodable : ∀ operation ∈ operations, operation.isEncodable = true)
    (misses : ∀ passage ∈ service.passages second operations, passage.MissesDeadlines service) :
    List.Forall₂ (fun left right => left.reply = right.reply ∧ SameLife left.after right.after)
      (service.passages first operations) (service.passages second operations) := by
  induction operations generalizing first second with
  | nil => exact .nil
  | cons operation rest inductionHypothesis =>
      have missesNow := misses _ List.mem_cons_self
      obtain ⟨encodableNow, encodableLater⟩ := List.forall_mem_cons.mp encodable
      obtain ⟨reply, stillMatched⟩ := matched.operate encodableNow missesNow
      exact .cons ⟨reply, stillMatched.sameLife missesNow.after⟩
        (inductionHypothesis stillMatched encodableLater fun passage membership =>
          misses passage (List.mem_cons_of_mem _ membership))

/-- Parts of a key that cannot be encoded are registered in memory, but not on a key server. -/
theorem TokenService.reply_put_of_unencodable (service : TokenService) {start : World}
    (sound : start.faults = {}) {user token : Text} (userPart : StoreKey.isPart user = true)
    (tokenPart : StoreKey.isPart token = true)
    (unencodable : (StoreKey.join user token).isEncodable = false) (lifetime : Int)
    (elapsed : Nat) (raised : List Signal) (store : MemoryStore) (server : KeyServer) :
    (service.operate (.put user token lifetime elapsed raised)
        { start with store := .memory store }).1 = .registered (.ok ()) ∧
      (service.operate (.put user token lifetime elapsed raised)
        { start with store := .remote server }).1 = .registered (.error .unencodable) := by
  have stillSound : ∀ store : Store,
      (World.disturbed { start with store } elapsed raised).faults = {} := fun _ => sound
  have registers :
      (World.disturbed { start with store := .memory store } elapsed raised).registeringFailure?
        (StoreKey.join user token) = none :=
    StoreAccess.registeringFailure?_eq_none (stillSound _) rfl
  have fails :
      (World.disturbed { start with store := .remote server } elapsed raised).registeringFailure?
        (StoreKey.join user token) = some .unencodable :=
    (StoreAccess.registeringFailure?_of_no_faults (stillSound _) _).trans
      (if_neg (ne_true_of_eq_false unencodable))
  obtain ⟨reports, refused⟩ :=
    StoreAccess.runIn_put_of_fails userPart tokenPart lifetime fails
  exact ⟨congrArg (fun ran => Reply.registered (Prod.fst ran))
      (StoreAccess.runIn_put userPart tokenPart lifetime registers),
    congrArg (fun ran => Reply.registered (Prod.fst ran)) refused⟩

/-- Over an empty memory store and over an empty key server, every sequence of operations that asks
for what can be encoded and misses the deadlines is answered alike, and after each of them the same
keys count, with the same time left.  Parts of a key that cannot be encoded tell them apart. -/
theorem TokenService.passages_agree (service : TokenService) (start : World)
    (sound : start.faults = {}) :
    (∀ operations : List Operation, (∀ operation ∈ operations, operation.isEncodable = true) →
      (∀ passage ∈ service.passages { start with store := .remote .empty } operations,
        passage.MissesDeadlines service) →
      List.Forall₂ (fun left right => left.reply = right.reply ∧ SameLife left.after right.after)
        (service.passages { start with store := .memory .empty } operations)
        (service.passages { start with store := .remote .empty } operations)) ∧
    ∀ user token lifetime elapsed raised, StoreKey.isPart user = true →
      StoreKey.isPart token = true → (StoreKey.join user token).isEncodable = false →
        (service.operate (.put user token lifetime elapsed raised)
            { start with store := .memory .empty }).1 = .registered (.ok ()) ∧
          (service.operate (.put user token lifetime elapsed raised)
            { start with store := .remote .empty }).1 = .registered (.error .unencodable) := by
  have matched : Matched { start with store := .memory .empty }
      { start with store := .remote .empty } :=
    ⟨rfl, rfl, rfl, rfl, rfl, ⟨sound, sound⟩, Store.aligned_empty start.clock⟩
  refine ⟨fun operations encodable misses => matched.passages encodable misses, ?_⟩
  intro user token lifetime elapsed raised userPart tokenPart unencodable
  exact service.reply_put_of_unencodable sound userPart tokenPart unencodable lifetime elapsed
    raised .empty .empty

/-- Entries are registered, end and are removed, and a token is rotated and signed out.  A user of
one lone surrogate is registered in memory only. -/
theorem TokenService.sample_passages_agree :
    let operations : List Operation :=
      [.put "a" "b" 5000000 500 [], .put "a:b" "c" 5000000 0 [], .contains "a" "b",
        .step (.newPair none { id := "u" } "" 20 []), .step (.advance 6000), .delete "a" "b",
        .step (.newPair none { id := "u" } (TokenId.numbered 1).text 20 []),
        .step (.signOut none "u"), .deleteAll "a"]
    let lone : Operation := .put [.high 0] "t" 60000000 0 []
    (World.sample.faults = {} ∧ (∀ operation ∈ operations, operation.isEncodable = true) ∧
        (∀ passage ∈ sample.passages { World.sample with store := .remote .empty } operations,
          passage.MissesDeadlines sample) ∧ lone.isEncodable = false) ∧
      List.Forall₂ (fun left right => left.reply = right.reply ∧ SameLife left.after right.after)
        (sample.passages { World.sample with store := .memory .empty } operations)
        (sample.passages { World.sample with store := .remote .empty } operations) ∧
      (sample.operate lone { World.sample with store := .memory .empty }).1 =
        .registered (.ok ()) ∧
      (sample.operate lone { World.sample with store := .remote .empty }).1 =
        .registered (.error .unencodable) := by
  intro operations lone
  have encodable : ∀ operation ∈ operations, operation.isEncodable = true := by decide +kernel
  have checked : ∀ passage ∈
      sample.passages { World.sample with store := .remote .empty } operations,
      passage.before.clock.InStep passage.after.clock ∧
      (.wall passage.before.clock.wall ∉ passage.before.store.deadlines ∧
        .wall passage.after.clock.wall ∉ passage.before.store.deadlines) ∧
      .wall passage.after.clock.wall ∉ passage.after.store.deadlines ∧
      (passage.after.tokensDrawn = passage.before.tokensDrawn ∨
        passage.after.clock.wall < passage.before.clock.wall + microsecondsPerSecond) := by
    decide +kernel
  have misses : ∀ passage ∈
      sample.passages { World.sample with store := .remote .empty } operations,
      passage.MissesDeadlines sample := by
    intro passage membership
    obtain ⟨inStep, before, after, brief⟩ := checked passage membership
    exact .of_brief inStep before after brief
  obtain ⟨agree, toldApart⟩ := sample.passages_agree .sample rfl
  exact ⟨⟨rfl, encodable, misses, by decide⟩, agree operations encodable misses,
    toldApart [.high 0] "t" 60000000 0 [] (by decide) (by decide) (by decide)⟩

end TokenAuthority
