import TokenAuthority.Proofs.Service.Atomicity

/-!
Calls in a world that stands still.

While no time passes, a call that was active stays so unless its caller cancels it.  Without outages
it then either exchanges the previous token for the new one, or leaves the entries that count as
they were.
-/

namespace TokenAuthority

open Store

/-- Whether nothing fails, and no time passes while a token is registered. -/
structure World.IsStill (world : World) : Prop where
  faults : world.faults = {}
  elapsed : world.duringPut.elapsed = 0

theorem World.IsStill.frame {world after : World} (still : world.IsStill)
    (frame : World.Frame world after) : after.IsStill :=
  ⟨frame.faults.trans still.faults, (congrArg Disturbance.elapsed frame.duringPut).trans
    still.elapsed⟩

namespace TokenService

variable {service : TokenService} {context : Context} {user : UserSnapshot} {previous : Text}
  {world after : World} {outcome : Except Failure TokenPair}

theorem Ends.isStill (ends : Ends service (some context) user previous world outcome after)
    (still : world.IsStill) : after.IsStill := by
  rcases ends.frame with frame | frame
  · exact still.frame frame
  · have drawing : world.drawing.IsStill := ⟨still.faults, still.elapsed⟩
    exact drawing.frame frame

theorem Ends.sameClock (ends : Ends service (some context) user previous world outcome after)
    (still : world.IsStill) : after.clock = world.clock := by
  rcases ends.clock with same | later
  · exact same
  · rw [later, still.elapsed, Clock.advance_zero]

/-- No token is orphaned in a still world, where a call does not expire halfway. -/
theorem not_orphans {user : Text} (still : world.IsStill) (uncancelled : context.signal = none)
    (clock : after.clock = world.clock) : ¬Orphans context user previous world outcome after := by
  intro orphans
  cases orphans with
  | expired active expires =>
      unfold Context.hasExpired Context.isCancelled at active expires
      rw [clock, uncancelled] at expires
      rw [uncancelled] at active
      exact Bool.false_ne_true (active.symm.trans expires)
  | unremoved fails =>
      rw [StoreAccess.removingFails_of_no_faults still.faults] at fails
      cases fails
  | missing absent rollBackFails =>
      rw [StoreAccess.removingFails_of_no_faults still.faults] at rollBackFails
      cases rollBackFails

/-- How a call that presents a previous token ends in a still world. -/
inductive EndsStill (service : TokenService) (user : UserSnapshot) (previous : Text)
    (world : World) : Except Failure TokenPair → World → Prop where
  | exchanged {pair : TokenPair} {after : World} (userPart : StoreKey.isPart user.id = true)
      (minted : service.mint user.id world = .ok pair.refresh)
      (present : world.IsLive user.id previous)
      (fresh : ¬world.IsLive user.id world.nextId.text) (differs : previous ≠ world.nextId.text)
      (alike : CountsAlike world.clock after.store
        ((pair.refresh.addedTo user.id world).remove (StoreKey.join user.id previous))) :
      EndsStill service user previous world (.ok pair) after
  | failed {failure : Failure} {after : World}
      (alike : CountsAlike world.clock after.store world.store) :
      EndsStill service user previous world (.error failure) after

theorem Ends.endsStill (ends : Ends service (some context) user previous world outcome after)
    (still : world.IsStill) (uncancelled : context.signal = none) (follows : previous ≠ [])
    (fresh : after.tokensDrawn ≠ world.tokensDrawn →
      ¬world.IsLive user.id world.nextId.text ∧ previous ≠ world.nextId.text) :
    EndsStill service user previous world outcome after := by
  have clock := ends.sameClock still
  cases ends with
  | refused => exact .failed (.refl _ _)
  | unminted => exact .failed (.refl _ _)
  | @settled identity issued result _ admitted minted settles =>
      have drawn : after.tokensDrawn ≠ world.tokensDrawn := by
        rw [settles.frame.tokensDrawn]
        exact Nat.succ_ne_self _
      obtain ⟨unregistered, differs⟩ := fresh drawn
      have userPart := (isPart_of_admitted admitted).1
      have freshAfter : ¬world.store.IsLive after.clock
          (StoreKey.join user.id world.nextId.text) := by
        rw [clock]
        exact unregistered
      obtain ⟨effect, described, cause⟩ :=
        settles.describes minted userPart freshAfter differs
      cases effect with
      | rotated =>
          obtain ⟨pair, isPair, mintedPair, -, exchanged⟩ := described
          obtain ⟨present, alike⟩ := exchanged follows
          simp only at isPair present alike
          rw [clock] at present alike
          rw [isPair]
          exact .exchanged userPart mintedPair present unregistered differs alike
      | unchanged =>
          obtain ⟨⟨failure, isError⟩, alike⟩ := described
          simp only at isError alike
          rw [clock] at alike
          rw [isError]
          exact .failed alike
      | orphaned => exact absurd (cause rfl) (not_orphans still uncancelled clock)

end TokenService

end TokenAuthority
