import TokenAuthority.Proofs.Service.Entries
import TokenAuthority.Proofs.Service.Issuing

/-!
Exchanging a token while the world stands still.

With keys that sign, a call that is active exchanges its token if that counts, and refuses it
otherwise.  Since nothing fails and no time passes there is a third way only for a user whose keys
the store does not take.
-/

namespace TokenAuthority

/-- Whether a context does not expire at a reading of the clocks, whatever signals are raised. -/
structure Context.StaysActive (context : Context) (clock : Clock) : Prop where
  uncancelled : context.signal = none
  early : context.deadlineReached clock = false

theorem Context.StaysActive.hasExpired {context : Context} {clock : Clock}
    (active : context.StaysActive clock) (raised : List Signal) :
    context.hasExpired clock raised = false := by
  unfold Context.hasExpired Context.isCancelled
  rw [active.uncancelled, active.early]
  rfl

namespace TokenService

open Call

section Still

variable {service : TokenService} (signs : service.Signs) {world : World}
  (dated : service.IsDatedAt world.clock.wall) (still : world.IsStill) {context : Context}
  (active : context.StaysActive world.clock) {user : UserSnapshot}
  (userPart : StoreKey.isPart user.id = true) {previous : TokenId}
  (fresh : ¬world.IsLive user.id world.nextId.text) (differs : previous ≠ world.nextId)

include still

theorem clock_registeredIn_drawing (issued : RefreshToken) :
    (issued.registeredIn user.id world.drawing).clock = world.clock := by
  rw [RefreshToken.clock_registeredIn]
  show world.clock.advance world.duringPut.elapsed = world.clock
  rw [still.elapsed, Clock.advance_zero]

include userPart differs in
/-- Registering the new token makes no difference to the previous one. -/
theorem isLive_registeredIn_drawing_iff {issued : RefreshToken}
    (minted : service.mint user.id world = .ok issued) :
    (issued.registeredIn user.id world.drawing).IsLive user.id previous.text ↔
      world.IsLive user.id previous.text := by
  have otherKey := join_ne_join_of_minted minted userPart
    (mt TokenId.text_injective differs)
  unfold World.IsLive
  rw [clock_registeredIn_drawing still, RefreshToken.store_registeredIn]
  exact issued.isLive_addedTo_iff user.id world.drawing world.clock otherKey

include active in
theorem hasExpired_registeredIn_drawing (issued : RefreshToken) :
    context.hasExpired (issued.registeredIn user.id world.drawing).clock
      (issued.registeredIn user.id world.drawing).raised = false := by
  rw [clock_registeredIn_drawing still]
  exact active.hasExpired _

section Taken

variable (taken : world.store.takes user.id = true)

include taken in
theorem registeringFailure?_drawing (issued : RefreshToken) :
    world.drawing.registeringFailure? (StoreKey.join user.id issued.id.text) = none :=
  StoreAccess.registeringFailure?_eq_none still.faults
    ((Store.takes_join_text world.store user.id issued.id).trans taken)

include signs dated active userPart fresh differs taken

/-- A token that counts is exchanged for the pair that is minted. -/
theorem exists_exchanged (live : world.IsLive user.id previous.text) :
    ∃ pair after,
      runIn (service.newPair (some context) user previous.text) world = (.ok pair, after) ∧
        service.admission user previous.text world.clock.wall = .ok pair.identity ∧
        service.mint user.id world = .ok pair.refresh ∧
        world.Exchanges after user.id previous.text world.nextId.text := by
  obtain ⟨identity, refresh, admitted, minted⟩ :=
    exists_minted_rotation signs dated userPart previous
  have ends : Ends service (some context) user previous.text world (.ok ⟨identity, refresh⟩)
      ((refresh.registeredIn user.id world.drawing).removing user.id previous.text) := by
    have settles : Settles (service.resolve (some context)) user.id previous.text refresh
        world.drawing (.ok ()) _ :=
      .rotated (active.hasExpired _)
        (registeringFailure?_drawing still taken refresh) (TokenId.text_ne_nil _)
        (hasExpired_registeredIn_drawing still active refresh)
        (StoreAccess.removingFails_of_no_faults still.faults _)
        ((isLive_registeredIn_drawing_iff still userPart differs minted).mpr live)
    exact .settled admitted minted settles
  obtain ⟨reports, ran⟩ := runIn_newPair_of_ends ends
  have exchanges := (ends.endsStill still active.uncancelled (TokenId.text_ne_nil _)
    fun _ => ⟨fresh, mt TokenId.text_injective differs⟩).exchanges (ends.sameClock still)
  exact ⟨_, _, ran, admitted, minted, exchanges.congr rfl rfl rfl rfl⟩

/-- A token that does not count is refused, and the new one is taken back. -/
theorem exists_refused (dead : ¬world.IsLive user.id previous.text) :
    ∃ after,
      runIn (service.newPair (some context) user previous.text) world =
          (.error (.service (.invalidToken .refresh)), after) ∧ world.CountAlike after := by
  obtain ⟨identity, refresh, admitted, minted⟩ :=
    exists_minted_rotation signs dated userPart previous
  have ends : Ends service (some context) user previous.text world
      (.error (.service (.invalidToken .refresh)))
      (((refresh.registeredIn user.id world.drawing).removing user.id previous.text).rollingBack
        user.id refresh.id.text) := by
    have settles : Settles (service.resolve (some context)) user.id previous.text refresh
        world.drawing (.error (.service (.invalidToken .refresh))) _ :=
      .missing (active.hasExpired _)
        (registeringFailure?_drawing still taken refresh) (TokenId.text_ne_nil _)
        (hasExpired_registeredIn_drawing still active refresh)
        (StoreAccess.removingFails_of_no_faults still.faults _)
        (mt (isLive_registeredIn_drawing_iff still userPart differs minted).mp dead)
    exact .settled admitted minted settles
  obtain ⟨reports, ran⟩ := runIn_newPair_of_ends ends
  have alike := (ends.endsStill still active.uncancelled (TokenId.text_ne_nil _)
    fun _ => ⟨fresh, mt TokenId.text_injective differs⟩).countAlike (ends.sameClock still)
  exact ⟨_, ran, alike⟩

end Taken

include signs dated active userPart in
/-- Nothing comes of a token of a user whose keys the store does not take. -/
theorem exists_untaken (untaken : world.store.takes user.id = false) :
    ∃ after, runIn (service.newPair (some context) user previous.text) world =
      (.error .unencodable, after) ∧ world.CountAlike after := by
  obtain ⟨identity, refresh, admitted, minted⟩ :=
    exists_minted_rotation signs dated userPart previous
  have fails : world.drawing.registeringFailure? (StoreKey.join user.id refresh.id.text) =
      some .unencodable := by
    have sound : world.drawing.faults = {} := still.faults
    have refused : world.drawing.store.takes (StoreKey.join user.id refresh.id.text) = false :=
      (Store.takes_join_text world.store user.id refresh.id).trans untaken
    rw [StoreAccess.registeringFailure?_of_no_faults sound, refused]
    rfl
  have ends : Ends service (some context) user previous.text world (.error .unencodable)
      world.drawing := by
    have settles : Settles (service.resolve (some context)) user.id previous.text refresh
        world.drawing (.error .unencodable) world.drawing :=
      .unregistered (active.hasExpired _) fails
    exact .settled admitted minted settles
  obtain ⟨reports, ran⟩ := runIn_newPair_of_ends ends
  exact ⟨_, ran, fun _ => rfl⟩

end Still

end TokenService

end TokenAuthority
