import TokenAuthority.Proofs.Service.Rotation
import TokenAuthority.Proofs.Token.Refresh

/-!
What a call for a pair hands out.

While all dates lie in the calendar, keys that sign make every admitted call mint both tokens.  A
call that hands out a pair has registered the refresh token of the pair and, when a previous one was
named, removed that.
-/

namespace TokenAuthority.TokenService

open Call

/-- A minted token carries the identifier that is drawn next, is the user's, and lives from now. -/
theorem mint_eq_ok {service : TokenService} {user : Text} {world : World}
    {issued : RefreshToken} (minted : service.mint user world = .ok issued) :
    issued.id = world.nextId ∧ issued.user = user ∧
      Claims.Lifespan.starting? world.clock.wall service.policy.refreshLifetime =
        some issued.lifespan := by
  unfold mint RefreshToken.issue at minted
  split at minted
  · exact absurd minted (by simp)
  · next lifespan begins =>
      split at minted
      · rw [Except.ok.injEq] at minted
        subst minted
        exact ⟨rfl, rfl, begins⟩
      · exact absurd minted (by simp)

/-- Whether all payloads can be signed, by the key as well as by the secret. -/
structure Signs (service : TokenService) : Prop where
  identity : ∀ payload, (Compact.sign? (.rsa service.policy.privateKey) payload).isSome = true
  refresh : ∀ payload, (Compact.sign? (.secret service.policy.secret) payload).isSome = true

/-- Whether the dates of the tokens that are issued at an instant lie in the calendar. -/
structure IsDatedAt (service : TokenService) (now : Int) : Prop where
  inCalendar : Instant.isInRange now = true
  identity : Instant.isInRange
    (Instant.floorToSecond now + service.policy.identityLifetime) = true
  refresh : Instant.isInRange (Instant.floorToSecond now + service.policy.refreshLifetime) = true

section Minting

variable {service : TokenService} (signs : service.Signs) {world : World}
  (dated : service.IsDatedAt world.clock.wall)

include signs dated

theorem exists_identity (user : UserSnapshot) :
    ∃ identity, IdentityToken.issue user (some service.policy.privateKey)
      service.policy.identityLifetime world.clock.wall = .ok identity := by
  unfold IdentityToken.issue
  simp only [Claims.Lifespan.starting?_of_isInRange dated.inCalendar dated.identity,
    Option.bind_some]
  obtain ⟨signed, isSigned⟩ := Option.isSome_iff_exists.mp (signs.identity
    (IdentityToken.payload user
      (.beginning world.clock.wall service.policy.identityLifetime)))
  exact ⟨_, by rw [isSigned]⟩

theorem exists_minted (user : Text) : ∃ token, service.mint user world = .ok token := by
  obtain ⟨signed, isSigned⟩ := Option.isSome_iff_exists.mp (signs.refresh
    (RefreshToken.payload user world.nextId
      (.beginning world.clock.wall service.policy.refreshLifetime)))
  exact ⟨_, (RefreshToken.issue_eq_ok_iff dated.inCalendar dated.refresh).mpr
    ⟨signed, isSigned, rfl⟩⟩

/-- An admitted call mints both tokens. -/
theorem exists_minted_pair {user : UserSnapshot} {previous : Text}
    (userPart : StoreKey.isPart user.id = true)
    (wellFormed : (!previous.isEmpty && !TokenId.isCanonical previous) = false) :
    ∃ identity refresh,
      service.admission user previous world.clock.wall = .ok identity ∧
        service.mint user.id world = .ok refresh := by
  obtain ⟨identity, identityIssued⟩ := exists_identity signs dated user
  obtain ⟨refresh, minted⟩ := exists_minted signs dated user.id
  exact ⟨identity, refresh, admission_eq_ok_iff.mpr ⟨userPart, wellFormed, identityIssued⟩, minted⟩

/-- An identifier is always admitted as that of a previous token. -/
theorem exists_minted_rotation {user : UserSnapshot} (userPart : StoreKey.isPart user.id = true)
    (previous : TokenId) :
    ∃ identity refresh,
      service.admission user previous.text world.clock.wall = .ok identity ∧
        service.mint user.id world = .ok refresh := by
  apply exists_minted_pair signs dated userPart
  rw [TokenId.isCanonical_text, Bool.not_true, Bool.and_false]

/-- A call without a previous token hands out a pair in a world without outages, while it is
active. -/
theorem exists_first_pair {user : UserSnapshot} (userPart : StoreKey.isPart user.id = true)
    (sound : world.faults = {}) (taken : world.store.takes user.id = true)
    {context : Option Context}
    (active : (service.resolve context).hasExpired world.clock world.raised = false) :
    ∃ pair reports, service.mint user.id world = .ok pair.refresh ∧
      runIn (service.newPair context user []) world =
        (.ok pair, (pair.refresh.registeredIn user.id world.drawing).withReports reports) := by
  have wellFormed : (!([] : Text).isEmpty && !TokenId.isCanonical []) = false := rfl
  obtain ⟨identity, refresh, admitted, minted⟩ :=
    exists_minted_pair signs dated userPart wellFormed
  obtain ⟨reports, ran⟩ := runIn_newPair_of_ends (.settled admitted minted
    (.begun active (StoreAccess.registeringFailure?_eq_none sound
      ((Store.takes_join_text _ user.id refresh.id).trans taken)) rfl))
  exact ⟨⟨identity, refresh⟩, reports, minted, ran⟩

end Minting

/-- What a call that hands out a pair has done. -/
structure HandsOut (service : TokenService) (user : UserSnapshot) (previous : Text)
    (world : World) (pair : TokenPair) (after : World) : Prop where
  admitted : service.admission user previous world.clock.wall = .ok pair.identity
  minted : service.mint user.id world = .ok pair.refresh
  store : after.store =
    if previous = [] then pair.refresh.addedTo user.id world
    else (pair.refresh.addedTo user.id world).remove (StoreKey.join user.id previous)

theorem handsOut_of_ok {service : TokenService} {context : Option Context} {user : UserSnapshot}
    {previous : Text} {world after : World} {pair : TokenPair}
    (returned : runIn (service.newPair context user previous) world = (.ok pair, after)) :
    service.HandsOut user previous world pair after := by
  obtain ⟨outcome, ended, reports, ends, ran⟩ := runIn_newPair service context user previous world
  rw [returned, Prod.mk.injEq] at ran
  obtain ⟨rfl, rfl⟩ := ran
  generalize isOk : (Except.ok pair : Except Failure TokenPair) = outcome at ends
  cases ends with
  | refused => cases isOk
  | unminted => cases isOk
  | settled admitted minted settles =>
      cases settles with
      | begun active registers first =>
          cases isOk
          exact ⟨admitted, minted, by rw [if_pos first]; rfl⟩
      | rotated active registers follows stillActive removes present =>
          cases isOk
          exact ⟨admitted, minted, by rw [if_neg follows]; rfl⟩
      | _ => cases isOk

/-! ### The sample -/

theorem signs_sample : Signs .sample where
  identity := by
    intro payload
    rw [tokenLibrary.signs_rsa]
    decide +kernel
  refresh := by
    intro payload
    rw [tokenLibrary.signs_secret]
    decide +kernel

end TokenAuthority.TokenService
