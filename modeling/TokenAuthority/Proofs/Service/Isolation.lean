import TokenAuthority.Proofs.Service.Rotation
import TokenAuthority.Proofs.Service.StoreShare

/-!
Users do not see one another through the store.

Two worlds are alike for a user if they read the same clocks and the user has the same share in
both stores.  A request of the user is answered alike in alike worlds and leaves them alike, and a
request of another user can be left out of one of them.  So a user cannot tell a run from the run
in which only the user's own requests are made.
-/

namespace TokenAuthority

namespace World

/-- The entries of a user that count, with the milliseconds that they have left; a user that is no
part of a key has none. -/
def remainingOf (user : Text) (world : World) : List (Text × Int) :=
  match StoreKey.start user with
  | .ok start => world.remaining.filter fun entry => start.isPrefixOf entry.1
  | .error _ => []

/-- Whether the same entries of a user count in two worlds. -/
structure SameEntries (user : Text) (first second : World) : Prop where
  clock : second.clock = first.clock
  deadline : ∀ token key, StoreKey.make user token = .ok key →
    second.store.liveDeadline? second.clock key = first.store.liveDeadline? first.clock key
  remaining : second.remainingOf user = first.remainingOf user

/-- Whether two worlds without outages are alike for a user. -/
structure Alike (user : Text) (first second : World) : Prop where
  firstSound : first.faults = {}
  secondSound : second.faults = {}
  clock : second.clock = first.clock
  kind : second.store.InMemory ↔ first.store.InMemory
  share : StoreKey.isPart user = true →
    second.store.share (StoreKey.userStart user) = first.store.share (StoreKey.userStart user)

/-- The entries that count and begin with a text are told by the share of that text. -/
theorem filter_remaining (start : Text) (world : World) :
    (world.remaining.filter fun entry => start.isPrefixOf entry.1) =
      { world with store := world.store.share start }.remaining := by
  have exchange : ∀ {δ : Type} (table : Table δ) (counts : Text × δ → Bool)
      (view : Text × δ → Text × Int), (∀ entry, (view entry).1 = entry.1) →
      (((table.filter counts).map view).filter
          fun entry => start.isPrefixOf entry.1) =
        ((table.share start).filter counts).map view := by
    intro δ table counts view keepsKey
    rw [List.filter_map, Table.share, List.filter_filter, List.filter_filter]
    congr 1
    apply List.filter_congr
    intro entry _
    rw [Function.comp_apply, keepsKey, Bool.and_comm]
  unfold remaining
  cases world.store with
  | memory store => exact exchange store.entries _ _ fun _ => rfl
  | remote server => exact exchange server.entries _ _ fun _ => rfl

theorem Alike.sameEntries {user : Text} {first second : World}
    (alike : Alike user first second) : SameEntries user first second where
  clock := alike.clock
  deadline := by
    intro token key made
    obtain ⟨userPart, -, rfl⟩ := StoreKey.isPart_of_make made
    have begins := StoreKey.isPrefix_join user token
    rw [← Store.liveDeadline?_share _ _ begins, alike.share userPart, alike.clock,
      Store.liveDeadline?_share _ _ begins]
  remaining := by
    unfold remainingOf
    cases made : StoreKey.start user with
    | error error => rfl
    | ok start =>
        obtain ⟨userPart, rfl⟩ := StoreKey.isPart_of_start made
        simp only [filter_remaining]
        unfold remaining
        simp only [alike.share userPart, alike.clock]

end World

namespace StoreAccess

open World

/-- Whether an event stays in the run of a user alone: a request of the user, or time that
passes. -/
def Event.isOf (user : Text) : Event → Bool
  | .request owner _ => owner = user
  | .advance _ => true

variable {user : Text} {first second : World}

theorem alike_refl (sound : first.faults = {}) : Alike user first first :=
  ⟨sound, sound, rfl, Iff.rfl, fun _ => rfl⟩

/-- A request of the user is answered alike in worlds that are alike for the user. -/
theorem alike_ask (alike : Alike user first second) (request : Request) :
    (ask user request second).1 = (ask user request first).1 ∧
      Alike user (ask user request first).2 (ask user request second).2 := by
  obtain ⟨servedFirst, clockFirst, faultsFirst⟩ := serves_ask alike.firstSound user request
  obtain ⟨servedSecond, clockSecond, faultsSecond⟩ := serves_ask alike.secondSound user request
  have sameClock := alike.clock
  rw [sameClock] at servedSecond clockSecond
  rw [← congrArg Prod.fst servedFirst, ← congrArg Prod.fst servedSecond]
  have sameKind := alike.kind
  rw [← first.store.inMemory_serve first.clock user request,
    ← second.store.inMemory_serve first.clock user request, servedFirst, servedSecond] at sameKind
  cases userPart : StoreKey.isPart user with
  | false =>
      refine ⟨(first.store.serve_of_not_isPart first.clock userPart request).2 _ alike.kind,
        faultsFirst.trans alike.firstSound, faultsSecond.trans alike.secondSound,
        clockSecond.trans clockFirst.symm, sameKind, ?_⟩
      intro part
      rw [userPart] at part
      cases part
  | true =>
      have toldFirst := first.store.serve_share first.clock user request
      have toldSecond := second.store.serve_share first.clock user request
      rw [alike.share userPart] at toldSecond
      refine ⟨toldSecond.1.symm.trans toldFirst.1, faultsFirst.trans alike.firstSound,
        faultsSecond.trans alike.secondSound, clockSecond.trans clockFirst.symm, sameKind,
        fun _ => ?_⟩
      have sameShare := toldSecond.2.symm.trans toldFirst.2
      rw [servedFirst, servedSecond] at sameShare
      exact sameShare

/-- A request of another user can be left out. -/
theorem alike_ask_of_ne (alike : Alike user first second) {owner : Text}
    (differs : owner ≠ user) (request : Request) :
    Alike user (ask owner request first).2 second := by
  obtain ⟨served, sameClock, sameFaults⟩ := serves_ask alike.firstSound owner request
  have leaves := congrArg Prod.snd served
  have sameKind := first.store.inMemory_serve first.clock owner request
  rw [leaves] at sameKind
  refine ⟨sameFaults.trans alike.firstSound, alike.secondSound,
    alike.clock.trans sameClock.symm, alike.kind.trans sameKind.symm, fun userPart => ?_⟩
  have sameShare := first.store.share_serve_of_ne first.clock userPart differs request
  rw [leaves] at sameShare
  exact (alike.share userPart).trans sameShare.symm

/-- An event of the user is answered alike in both worlds and leaves them alike. -/
theorem alike_perform (alike : Alike user first second) {event : Event}
    (isOf : event.isOf user = true) :
    (perform event second).1 = (perform event first).1 ∧
      Alike user (perform event first).2 (perform event second).2 := by
  cases event with
  | advance milliseconds =>
      exact ⟨rfl, alike.firstSound, alike.secondSound,
        congrArg (Clock.advance · (milliseconds : Int)) alike.clock, alike.kind, alike.share⟩
  | request owner request =>
      have isUser : owner = user := of_decide_eq_true isOf
      subst isUser
      exact alike_ask alike request

/-- Every other event can be left out. -/
theorem alike_perform_of_other (alike : Alike user first second) {event : Event}
    (isOther : ¬event.isOf user = true) : Alike user (perform event first).2 second := by
  cases event with
  | advance milliseconds => exact absurd rfl isOther
  | request owner request =>
      have differs : owner ≠ user := fun isUser => isOther (decide_eq_true isUser)
      exact alike_ask_of_ne alike differs request

/-- What the user is answered does not tell whether others make requests in between; while one of
them is served, the world without them stays where it is. -/
theorem replies_of_alike (alike : Alike user first second) (events : List Event) :
    ((replies first events).filter fun reply => reply.1.isOf user) =
      replies second (events.filter (Event.isOf user)) := by
  induction events generalizing first second with
  | nil => rfl
  | cons event rest inductionHypothesis =>
      rw [replies]
      by_cases isOf : event.isOf user = true
      · obtain ⟨sameReply, stillAlike⟩ := alike_perform alike isOf
        rw [List.filter_cons, if_pos isOf, List.filter_cons, if_pos isOf, replies, sameReply,
          inductionHypothesis stillAlike]
      · rw [List.filter_cons, if_neg isOf, List.filter_cons, if_neg isOf]
        exact inductionHypothesis (alike_perform_of_other alike isOf)

theorem alike_worldAfter (alike : Alike user first second) (events : List Event) :
    Alike user (worldAfter first events)
      (worldAfter second (events.filter (Event.isOf user))) := by
  induction events generalizing first second with
  | nil => exact alike
  | cons event rest inductionHypothesis =>
      by_cases isOf : event.isOf user = true
      · rw [List.filter_cons_of_pos isOf]
        exact inductionHypothesis (alike_perform alike isOf).2
      · rw [List.filter_cons_of_neg isOf]
        exact inductionHypothesis (alike_perform_of_other alike isOf)

/-- Isolation: in a run without outages, a user is answered as in the run in which the others make
no requests, and after every step the same entries of the user count. -/
theorem user_isolated {start : World} (sound : start.faults = {}) (user : Text)
    (events : List Event) :
    ((replies start events).filter fun reply => reply.1.isOf user) =
        replies start (events.filter (Event.isOf user)) ∧
      ∀ earlier, earlier <+: events →
        SameEntries user (worldAfter start earlier)
          (worldAfter start (earlier.filter (Event.isOf user))) :=
  ⟨replies_of_alike (alike_refl sound) events,
    fun earlier _ => (alike_worldAfter (alike_refl sound) earlier).sameEntries⟩

/-- A run on a key server in which the users' names begin like one another, hold wildcards or are
no parts of keys. -/
def sampleVisits : List Event :=
  [.request "a" (.put "t" 60000000), .request "a*" (.put "t" 60000000),
    .request "ab" (.put "t" 1000), .request "a:b" (.put "t" 60000000), .request "" .deleteAll,
    .advance 500, .request "a*" .deleteAll, .request "a" (.contains "t"), .advance 700,
    .request "a?" .deleteAll, .request "a" .deleteAll]

theorem sample_user_isolated :
    let start : World := { World.sample with store := .remote .empty }
    let alone : List Event :=
      [.request "a" (.put "t" 60000000), .advance 500, .request "a" (.contains "t"),
        .advance 700, .request "a" .deleteAll]
    start.faults = {} ∧
      ((replies start sampleVisits).filter fun reply => reply.1.isOf "a") = replies start alone ∧
      SameEntries "a" (worldAfter start sampleVisits) (worldAfter start alone) := by
  intro start alone
  have sound : start.faults = {} := rfl
  have isAlone : sampleVisits.filter (Event.isOf "a") = alone := rfl
  obtain ⟨answers, entries⟩ := user_isolated sound "a" sampleVisits
  have entriesAtEnd := entries sampleVisits (List.prefix_refl _)
  rw [isAlone] at answers entriesAtEnd
  exact ⟨sound, answers, entriesAtEnd⟩

end StoreAccess

end TokenAuthority
