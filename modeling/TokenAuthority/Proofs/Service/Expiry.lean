import TokenAuthority.Proofs.Service.Issuing
import TokenAuthority.Proofs.Service.Session

/-!
The entry of a token ends with the token.

A token begins with the current second and expires on a whole second.  Its entry begins now, and it
is kept for the whole seconds that the token then has left.  So it ends with the token or less than
a second before it, and as long as an entry in memory counts, its token is still accepted.
-/

namespace TokenAuthority

open Claims

/-- Whether an entry that is registered now for a number of seconds ends when a token does that
expires at a second, or less than a second earlier. -/
structure EndsWithin (now seconds expiry : Int) : Prop where
  notLater : now + seconds * microsecondsPerSecond ≤ expiry * microsecondsPerSecond
  closely : expiry * microsecondsPerSecond <
    now + seconds * microsecondsPerSecond + microsecondsPerSecond

/-- Of two seconds and more, one is left when the token is registered. -/
theorem endsWithin_beginning {now lifetime : Int} (atLeast : 2 ≤ lifetime)
    (atMost : lifetime ≤ 2 ^ 34) :
    EndsWithin now
      (Duration.storeSeconds
        ((Lifespan.beginning now (lifetime * microsecondsPerSecond)).expiresAt - now))
      (now / microsecondsPerSecond + lifetime) := by
  rw [Lifespan.expiresAt_beginning]
  have near : IsNear
      ((now / microsecondsPerSecond + lifetime) * microsecondsPerSecond - now) := by
    unfold IsNear nearLimit microsecondsPerSecond
    omega
  have oneSecond : (microsecondsPerSecond : Int) ≤
      (now / microsecondsPerSecond + lifetime) * microsecondsPerSecond - now := by
    unfold microsecondsPerSecond
    omega
  rw [Duration.storeSeconds_near near oneSecond]
  constructor <;>
    · unfold microsecondsPerSecond
      omega

namespace RefreshToken

/-- Whether the signed text of a token claims to expire at a second. -/
def ClaimsExpiry (token : RefreshToken) (secret : Text) (expiry : Int) : Prop :=
  ∃ claims, Compact.open? (.secret secret) token.signed = some claims ∧
    Json.lookup? "exp" claims = some (.int expiry)

end RefreshToken

/-- Whether a world is a later one, by both clocks alike, with a store in memory that still keeps
what another one keeps under a key. -/
structure World.StillKeeps (later issued after : World) (key : Text) : Prop where
  inMemory : issued.store.InMemory ∧ later.store.InMemory
  clock : ∃ elapsed : Nat, later.clock.wall = issued.clock.wall + elapsed * 1000 ∧
    later.clock.reading = issued.clock.reading + elapsed
  near : IsNear later.clock.wall
  entry : later.store.find? key = after.store.find? key

namespace TokenService

open Call

section HandsOut

variable {service : TokenService} {user : UserSnapshot} {previous : Text} {world after : World}
  {pair : TokenPair} (handsOut : service.HandsOut user previous world pair after)

include handsOut

/-- The store that a call leaves behind keeps its token for the seconds that it was registered for,
or not at all. -/
theorem HandsOut.eq_deadlineAfter {deadline : Deadline}
    (found : after.store.find? (StoreKey.join user.id pair.refresh.id.text) = some deadline) :
    deadline = world.store.deadlineAfter world.clock
      (Duration.storeSeconds (pair.refresh.timeLeft world.clock.wall)) := by
  rw [handsOut.store] at found
  unfold RefreshToken.addedTo at found
  split at found
  · rw [Store.find?_register, if_pos rfl, Option.some.injEq] at found
    exact found.symm
  · rw [Store.find?_remove] at found
    split at found
    · cases found
    · rw [Store.find?_register, if_pos rfl, Option.some.injEq] at found
      exact found.symm

variable {lifetime : Int}
  (configured : service.policy.refreshLifetime = lifetime * microsecondsPerSecond)

include configured

theorem HandsOut.claimsExpiry :
    pair.refresh.ClaimsExpiry service.policy.secret
      (world.clock.wall / microsecondsPerSecond + lifetime) := by
  obtain ⟨-, -, begins, dated, isSigned⟩ := RefreshToken.of_issue handsOut.minted
  refine ⟨_, RefreshToken.open?_of_sign? isSigned dated, ?_⟩
  rw [begins, configured] at dated ⊢
  simp [RefreshToken.spelledClaims, Json.lookup?, Lifespan.claims,
    Lifespan.wholeSecondsOf_expiresAt dated]

theorem HandsOut.endsWithin (atLeast : 2 ≤ lifetime) (atMost : lifetime ≤ 2 ^ 34) :
    EndsWithin world.clock.wall
      (Duration.storeSeconds (pair.refresh.timeLeft world.clock.wall))
      (world.clock.wall / microsecondsPerSecond + lifetime) := by
  obtain ⟨-, -, begins, -⟩ := RefreshToken.of_issue handsOut.minted
  unfold RefreshToken.timeLeft
  rw [begins, configured]
  exact endsWithin_beginning atLeast atMost

omit configured in
/-- While the entry counts, no more time has passed than it was registered for. -/
theorem HandsOut.reading_le {later : World}
    (keeps : later.StillKeeps world after (StoreKey.join user.id pair.refresh.id.text))
    (live : later.IsLive user.id pair.refresh.id.text) :
    later.clock.reading ≤ world.clock.reading +
      Duration.storeSeconds (pair.refresh.timeLeft world.clock.wall) * 1000 := by
  obtain ⟨deadline, counts⟩ := (Store.isLive_iff _ _ _).mp live
  obtain ⟨found, ahead⟩ := (Store.liveDeadline?_eq_some_iff _ _ _ _).mp counts
  rw [keeps.entry] at found
  rw [handsOut.eq_deadlineAfter found, Store.deadlineAfter_of_inMemory keeps.inMemory.1] at ahead
  by_contra later
  have passed := (Deadline.endsAfter_ticking world.clock
    (Duration.one_le_storeSeconds (pair.refresh.timeLeft world.clock.wall))).passed _
      (Int.not_le.mp later)
  rw [ahead] at passed
  cases passed

/-- Before the second at which a token expires, it is accepted. -/
theorem HandsOut.verify?_of_before {later : World}
    (keeps : later.StillKeeps world after (StoreKey.join user.id pair.refresh.id.text))
    (before : later.clock.wall <
      (world.clock.wall / microsecondsPerSecond + lifetime) * microsecondsPerSecond) :
    RefreshToken.verify? pair.refresh.signed service.policy.secret later.clock.wall =
      some ⟨user.id.join, pair.refresh.id⟩ := by
  obtain ⟨elapsed, wall, -⟩ := keeps.clock
  obtain ⟨newId, -, begins, dated, -⟩ := RefreshToken.of_issue handsOut.minted
  obtain ⟨userPart, -⟩ := isPart_of_admitted handsOut.admitted
  rw [newId]
  apply RefreshToken.verify?_of_issue userPart handsOut.minted keeps.near
  · omega
  · rw [begins, configured] at dated ⊢
    unfold Lifespan.expiry
    rw [Lifespan.wholeSecondsOf_expiresAt dated]
    exact before

/-- While the entry counts, the token has not expired, unless both end at this very instant. -/
theorem HandsOut.before_or_at_end (atLeast : 2 ≤ lifetime) (atMost : lifetime ≤ 2 ^ 34)
    {later : World}
    (keeps : later.StillKeeps world after (StoreKey.join user.id pair.refresh.id.text))
    (live : later.IsLive user.id pair.refresh.id.text) :
    let expiry := (world.clock.wall / microsecondsPerSecond + lifetime) * microsecondsPerSecond
    later.clock.wall < expiry ∨ later.clock.wall = expiry ∧
      later.clock.reading = world.clock.reading +
        Duration.storeSeconds (pair.refresh.timeLeft world.clock.wall) * 1000 := by
  intro expiry
  obtain ⟨elapsed, wall, reading⟩ := keeps.clock
  have within := handsOut.reading_le keeps live
  have ends := (handsOut.endsWithin configured atLeast atMost).notLater
  unfold microsecondsPerSecond at ends
  simp only [expiry, microsecondsPerSecond]
  omega

end HandsOut

/-- The entry of a token that is handed out ends with the token, or less than a second before it.
As long as an entry in memory counts near 1970, validation accepts its token in every call that is
active.  The one exception is the instant at which both end: there the floating-point deadline may
be rounded up, so that the entry still counts. -/
theorem entry_ends_with_token {service : TokenService} {lifetime : Int}
    (configured : service.policy.refreshLifetime = lifetime * microsecondsPerSecond)
    (atLeast : 2 ≤ lifetime) (atMost : lifetime ≤ 2 ^ 34) {context : Option Context}
    {user : UserSnapshot} {previous : Text} {world after : World} {pair : TokenPair}
    (returned : runIn (service.newPair context user previous) world = (.ok pair, after)) :
    let key := StoreKey.join user.id pair.refresh.id.text
    ∃ seconds expiry : Int,
      (after.store = if previous = [] then world.store.register world.clock key seconds
        else (world.store.register world.clock key seconds).remove
          (StoreKey.join user.id previous)) ∧
      pair.refresh.ClaimsExpiry service.policy.secret expiry ∧
      EndsWithin world.clock.wall seconds expiry ∧
      ∀ later : World, later.StillKeeps world after key →
        later.IsLive user.id pair.refresh.id.text →
          (later.clock.wall = expiry * microsecondsPerSecond ∧
            later.clock.reading = world.clock.reading + seconds * 1000) ∨
          ∀ call : Option Context,
            (runIn (service.validateRefresh call pair.refresh.signed) later).1 =
              if (service.resolve call).hasExpired later.clock later.raised then
                .error (.service (.deadlinePassed "validating refresh token"))
              else .ok ⟨user.id.join, pair.refresh.id⟩ := by
  have handsOut := handsOut_of_ok returned
  refine ⟨_, _, handsOut.store, handsOut.claimsExpiry configured,
    handsOut.endsWithin configured atLeast atMost, ?_⟩
  intro later keeps live
  rcases handsOut.before_or_at_end configured atLeast atMost keeps live with before | atEnd
  · refine .inr fun call => ?_
    have verified := handsOut.verify?_of_before configured keeps before
    obtain ⟨reports, ran⟩ := runIn_validateRefresh service call pair.refresh.signed later
    simp only [ran, validatedRefresh, validated, verified]
    rfl
  · exact .inl atEnd

/-! ### A sample -/

/-- A world a second and a half before 1970. -/
def beforeEpoch : World := { World.sample with clock := ⟨-1500000, 0⟩ }

/-- The token is issued as of two seconds before 1970 and expires with the beginning of that year.
Its entry is kept for a second. -/
theorem twoSeconds_entry_ends_with_token :
    ∃ pair after, runIn (twoSeconds.newPair none { id := "u" } []) beforeEpoch = (.ok pair, after) ∧
      twoSeconds.policy.refreshLifetime = 2 * microsecondsPerSecond ∧
      let key := StoreKey.join "u" pair.refresh.id.text
      let later := after.advance 999
      later.StillKeeps beforeEpoch after key ∧ later.IsLive "u" pair.refresh.id.text ∧
      ∃ seconds expiry : Int,
        after.store = beforeEpoch.store.register beforeEpoch.clock key seconds ∧
        pair.refresh.ClaimsExpiry twoSeconds.policy.secret expiry ∧
        EndsWithin (-1500000) seconds expiry ∧
        (runIn (twoSeconds.validateRefresh none pair.refresh.signed) later).1 =
          .ok ⟨"u", pair.refresh.id⟩ := by
  have signs : twoSeconds.Signs := ⟨signs_sample.identity, signs_sample.refresh⟩
  have dated : twoSeconds.IsDatedAt beforeEpoch.clock.wall := by
    constructor <;> decide
  have userPart : StoreKey.isPart ({ id := "u" } : UserSnapshot).id = true := by decide
  have configured : twoSeconds.policy.refreshLifetime = 2 * microsecondsPerSecond := by decide
  have active : (twoSeconds.resolve none).hasExpired beforeEpoch.clock beforeEpoch.raised =
    false := rfl
  obtain ⟨pair, reports, minted, ran⟩ := exists_first_pair signs dated userPart rfl rfl active
  obtain ⟨-, -, begins, -⟩ := RefreshToken.of_issue minted
  have timeLeft : pair.refresh.timeLeft beforeEpoch.clock.wall = 1500000 := by
    unfold RefreshToken.timeLeft
    rw [begins]
    decide
  have entry : (pair.refresh.addedTo "u" beforeEpoch).find?
      (StoreKey.join "u" pair.refresh.id.text) =
        some ((pair.refresh.addedTo "u" beforeEpoch).deadlineAfter beforeEpoch.clock 1) := by
    unfold RefreshToken.addedTo
    rw [Store.find?_register, if_pos rfl, timeLeft, Store.deadlineAfter_register]
    decide +kernel
  have live := Store.isLive_advance_of_find? (by decide) entry
    (show (999 : Int) < 1 * 1000 by decide)
  obtain ⟨seconds, expiry, store, claims, ends, accepts⟩ :=
    entry_ends_with_token configured (by decide) (by decide) ran
  have near : IsNear (beforeEpoch.clock.advance 999).wall := by decide
  have keeps : World.StillKeeps
      (((pair.refresh.registeredIn "u" beforeEpoch.drawing).withReports reports).advance 999)
      beforeEpoch ((pair.refresh.registeredIn "u" beforeEpoch.drawing).withReports reports)
      (StoreKey.join "u" pair.refresh.id.text) :=
    ⟨⟨trivial, trivial⟩, ⟨999, rfl, rfl⟩, near, rfl⟩
  refine ⟨pair, _, ran, configured, keeps, live, seconds, expiry, store, claims, ends, ?_⟩
  rcases accepts _ keeps live with ⟨-, atEnd⟩ | accepted
  · have reading : (999 : Int) = 0 + seconds * 1000 := atEnd
    omega
  · exact accepted none

/-- At the instant at which both end the entry may still count, while the token is not accepted. -/
theorem twoSeconds_entry_outlives_token :
    ∃ pair after,
      runIn (twoSeconds.newPair none { id := "u" } []) World.uneven = (.ok pair, after) ∧
      twoSeconds.policy.refreshLifetime = 2 * microsecondsPerSecond ∧
      let later := after.advance 2000
      later.StillKeeps World.uneven after (StoreKey.join "u" pair.refresh.id.text) ∧
        later.IsLive "u" pair.refresh.id.text ∧
        (runIn (twoSeconds.validateRefresh none pair.refresh.signed) later).1 =
          .error (.service (.invalidToken .refresh)) := by
  have signs : twoSeconds.Signs := ⟨signs_sample.identity, signs_sample.refresh⟩
  have dated : twoSeconds.IsDatedAt World.uneven.clock.wall := by
    constructor <;> decide
  have userPart : StoreKey.isPart ({ id := "u" } : UserSnapshot).id = true := by decide
  have active : (twoSeconds.resolve none).hasExpired World.uneven.clock World.uneven.raised =
    false := rfl
  obtain ⟨pair, reports, minted, ran⟩ := exists_first_pair signs dated userPart rfl rfl active
  obtain ⟨newId, -, begins, isDated, isSigned⟩ := RefreshToken.of_issue minted
  have timeLeft : pair.refresh.timeLeft World.uneven.clock.wall = 2000000 := by
    unfold RefreshToken.timeLeft
    rw [begins]
    decide
  have live : (pair.refresh.addedTo "u" World.uneven).IsLive (World.uneven.clock.advance 2000)
      (StoreKey.join "u" pair.refresh.id.text) := by
    unfold RefreshToken.addedTo
    rw [newId, timeLeft]
    decide +kernel
  have unverified : RefreshToken.verify? pair.refresh.signed twoSeconds.policy.secret
      (World.uneven.clock.advance 2000).wall = none := by
    rw [RefreshToken.verify?_of_sign? isSigned isDated userPart, begins]
    decide +kernel
  refine ⟨pair, _, ran, by decide, ⟨⟨trivial, trivial⟩, ⟨2000, rfl, rfl⟩, ?_, rfl⟩, live, ?_⟩
  · show IsNear (World.uneven.clock.advance 2000).wall
    decide
  · obtain ⟨more, refused⟩ := runIn_validateRefresh twoSeconds none pair.refresh.signed
      (((pair.refresh.registeredIn "u" World.uneven.drawing).withReports reports).advance 2000)
    have sameClock : (((pair.refresh.registeredIn "u" World.uneven.drawing).withReports
        reports).advance 2000).clock = World.uneven.clock.advance 2000 := rfl
    rw [refused, validatedRefresh_of_active rfl, sameClock, unverified]

end TokenService

end TokenAuthority
