import TokenAuthority.Proofs.Service.Issuing

/-!
The effect of a call for a pair on the entries that count.

Whatever fails and however late, a call either rotates, or fails and changes no entry that counts,
or fails and leaves its new token registered beside the previous one.  The last needs a call that
expires while it registers, or a store that cannot take the new token back.  Stores are compared at
the instant at which the call ends, so that entries which end meanwhile play no part.
-/

namespace TokenAuthority

namespace TokenService

open Call Store

/-- The key of a minted token is not that of another previous token. -/
theorem join_ne_join_of_minted {service : TokenService} {user previous : Text} {world : World}
    {issued : RefreshToken} (minted : service.mint user world = .ok issued)
    (userPart : StoreKey.isPart user = true) (differs : previous ≠ world.nextId.text) :
    StoreKey.join user previous ≠ StoreKey.join user issued.id.text := by
  rw [ne_eq, StoreKey.join_eq_join_iff userPart (TokenId.isPart_text issued.id),
    (mint_eq_ok minted).1]
  exact fun equal => differs equal.2

/-- What a call for a pair can do to the entries that count. -/
inductive Effect where
  /-- The new token is registered, the previous one consumed, and the pair handed out. -/
  | rotated
  | unchanged
  /-- The new token stays registered although the call fails. -/
  | orphaned
deriving DecidableEq, Repr

/-- Whether the result of a call for a pair shows an effect. -/
def Effect.Describes (effect : Effect) (service : TokenService) (user previous : Text)
    (world : World) (result : Except Failure TokenPair × World) : Prop :=
  let clock := result.2.clock
  match effect with
  | .rotated =>
      ∃ pair, result.1 = .ok pair ∧ service.mint user world = .ok pair.refresh ∧
        (previous = [] → CountsAlike clock result.2.store (pair.refresh.addedTo user world)) ∧
        (previous ≠ [] → world.store.IsLive clock (StoreKey.join user previous) ∧
          CountsAlike clock result.2.store
            ((pair.refresh.addedTo user world).remove (StoreKey.join user previous)))
  | .unchanged =>
      (∃ failure, result.1 = .error failure) ∧ CountsAlike clock result.2.store world.store
  | .orphaned =>
      (∃ failure, result.1 = .error failure) ∧
        result.2.IsLive user world.nextId.text ∧
        ∃ issued, service.mint user world = .ok issued ∧
          CountsAlike clock result.2.store (issued.addedTo user world)

@[simp]
theorem Effect.describes_withReports {effect : Effect} {service : TokenService}
    {user previous : Text} {world after : World} {outcome : Except Failure TokenPair}
    (reports : List Log.Event) :
    effect.Describes service user previous world (outcome, after.withReports reports) ↔
      effect.Describes service user previous world (outcome, after) := by
  cases effect <;> rfl

/-- How a call comes to leave its new token registered although it fails. -/
inductive Orphans (context : Context) (user previous : Text) (world : World) :
    Except Failure TokenPair → World → Prop where
  | expired {after : World} (active : context.hasExpired world.clock world.raised = false)
      (expires : context.hasExpired after.clock after.raised = true) :
      Orphans context user previous world
        (.error (.service (.deadlinePassed "deleting previous refresh token"))) after
  | unremoved {after : World}
      (fails : world.removingFails (StoreKey.join user previous) = true)
      (rollBackFails : world.removingFails (StoreKey.join user world.nextId.text) = true) :
      Orphans context user previous world (.error (.service .storeUnavailable)) after
  | missing {after : World}
      (absent : ¬world.store.IsLive after.clock (StoreKey.join user previous))
      (rollBackFails : world.removingFails (StoreKey.join user world.nextId.text) = true) :
      Orphans context user previous world (.error (.service (.invalidToken .refresh))) after

/-- While the new token counts for nothing in the old store, a result shows one effect only. -/
theorem Effect.Describes.unique {service : TokenService} {user previous : Text} {world : World}
    {result : Except Failure TokenPair × World} {first second : Effect}
    (left : first.Describes service user previous world result)
    (right : second.Describes service user previous world result)
    (fresh : ¬world.store.IsLive result.2.clock (StoreKey.join user world.nextId.text)) :
    first = second := by
  have okOrError : ∀ {pair failure}, result.1 = .ok pair → result.1 = .error failure → False :=
    fun succeeded failed => by simp [succeeded] at failed
  have goneOrLive : CountsAlike result.2.clock result.2.store world.store →
      result.2.IsLive user world.nextId.text → False :=
    fun alike live => fresh ((alike.isLive_iff _).mp live)
  cases first <;> cases second <;> try rfl
  · exact (okOrError left.choose_spec.1 right.1.choose_spec).elim
  · exact (okOrError left.choose_spec.1 right.1.choose_spec).elim
  · exact (okOrError right.choose_spec.1 left.1.choose_spec).elim
  · exact (goneOrLive left.2 right.2.1).elim
  · exact (okOrError right.choose_spec.1 left.1.choose_spec).elim
  · exact (goneOrLive right.2 left.2.1).elim

theorem Effect.Describes.frame {service : TokenService} {user previous : Text} {world : World}
    {result : Except Failure TokenPair × World} {effect : Effect}
    (described : effect.Describes service user previous world result) {key : Text}
    (notPrevious : key ≠ StoreKey.join user previous)
    (notNew : key ≠ StoreKey.join user world.nextId.text) :
    result.2.store.liveDeadline? result.2.clock key =
      world.store.liveDeadline? result.2.clock key := by
  have added : ∀ {issued}, service.mint user world = .ok issued →
      (issued.addedTo user world).liveDeadline? result.2.clock key =
        world.store.liveDeadline? result.2.clock key := by
    intro issued minted
    rw [← (mint_eq_ok minted).1] at notNew
    exact world.store.liveDeadline?_register_of_ne world.clock result.2.clock notNew _
  cases effect with
  | rotated =>
      obtain ⟨pair, -, minted, begun, rotated⟩ := described
      by_cases first : previous = []
      · rw [begun first key, added minted]
      · rw [(rotated first).2 key, liveDeadline?_remove, if_neg notPrevious, added minted]
  | unchanged => exact described.2 key
  | orphaned =>
      obtain ⟨-, -, issued, minted, alike⟩ := described
      rw [alike key, added minted]

/-- A failed call that only registered its token orphaned it, unless the entry has ended already. -/
theorem describes_of_registered {service : TokenService} {user : Text} (previous : Text)
    {world : World} (after : World) {issued : RefreshToken}
    (minted : service.mint user world = .ok issued)
    (fresh : ¬world.store.IsLive after.clock (StoreKey.join user world.nextId.text))
    (alike : CountsAlike after.clock after.store (issued.addedTo user world)) (failure : Failure) :
    Effect.orphaned.Describes service user previous world (.error failure, after) ∨
      Effect.unchanged.Describes service user previous world (.error failure, after) := by
  by_cases live : after.IsLive user world.nextId.text
  · exact .inl ⟨⟨failure, rfl⟩, live, issued, minted, alike⟩
  · refine .inr ⟨⟨failure, rfl⟩, alike.trans ?_⟩
    unfold World.IsLive at live
    rw [alike.isLive_iff] at live
    rw [← (mint_eq_ok minted).1] at fresh live
    exact countsAlike_register_of_ended fresh live

/-- A failed call that then rolls back changed nothing, unless rolling back fails, too. -/
theorem describes_of_rollingBack {service : TokenService} {user : Text} (previous : Text)
    {world : World} (middle : World) {issued : RefreshToken}
    (minted : service.mint user world = .ok issued)
    (fresh : ¬world.store.IsLive middle.clock (StoreKey.join user world.nextId.text))
    (alike : CountsAlike middle.clock middle.store (issued.addedTo user world))
    (failure : Failure) :
    (middle.removingFails (StoreKey.join user world.nextId.text) = true ∧
        Effect.orphaned.Describes service user previous world
          (.error failure, middle.rollingBack user issued.id.text)) ∨
      Effect.unchanged.Describes service user previous world
        (.error failure, middle.rollingBack user issued.id.text) := by
  unfold World.rollingBack
  rw [(mint_eq_ok minted).1]
  split
  · next fails =>
      rcases describes_of_registered previous middle minted fresh alike failure with
        described | described
      · exact .inl ⟨fails, described⟩
      · exact .inr described
  · rw [← (mint_eq_ok minted).1] at fresh ⊢
    exact .inr ⟨⟨failure, rfl⟩, (alike.remove _).trans (countsAlike_remove_register fresh _)⟩

/-- Every way of settling shows an effect, and an orphaned token has a cause. -/
theorem Settles.describes {service : TokenService} {context : Context} {user previous : Text}
    {identity : IdentityToken} {issued : RefreshToken} {world after : World}
    {outcome : Except Failure Unit}
    (settles : Settles context user previous issued world.drawing outcome after)
    (minted : service.mint user world = .ok issued) (userPart : StoreKey.isPart user = true)
    (fresh : ¬world.store.IsLive after.clock (StoreKey.join user world.nextId.text))
    (differs : previous ≠ world.nextId.text) :
    ∃ effect : Effect,
      effect.Describes service user previous world
        (outcome.map fun _ => ⟨identity, issued⟩, after) ∧
      (effect = .orphaned → Orphans context user previous world
        (outcome.map fun _ => ⟨identity, issued⟩) after) := by
  have previousKey := join_ne_join_of_minted minted userPart differs
  cases settles with
  | late => exact ⟨.unchanged, ⟨⟨_, rfl⟩, .refl _ _⟩, by simp⟩
  | unregistered => exact ⟨.unchanged, ⟨⟨_, rfl⟩, .refl _ _⟩, by simp⟩
  | begun active registers first =>
      exact ⟨.rotated, ⟨_, rfl, minted, fun _ => .refl _ _, fun follows => absurd first follows⟩,
        by simp⟩
  | orphaned active registers follows expired =>
      rcases describes_of_registered previous
        (issued.registeredIn user world.drawing) minted fresh (.refl _ _)
        (.service (.deadlinePassed "deleting previous refresh token")) with described | described
      · exact ⟨.orphaned, described, fun _ => .expired active expired⟩
      · exact ⟨.unchanged, described, by simp⟩
  | unremoved active registers follows stillActive fails =>
      rw [World.clock_rollingBack] at fresh
      rcases describes_of_rollingBack previous (issued.registeredIn user world.drawing) minted fresh
        (.refl _ _)
        (.service .storeUnavailable) with ⟨rollBackFails, described⟩ | described
      · exact ⟨.orphaned, described, fun _ => .unremoved fails rollBackFails⟩
      · exact ⟨.unchanged, described, by simp⟩
  | missing active registers follows stillActive removes absent =>
      rw [World.clock_rollingBack] at fresh
      rcases describes_of_rollingBack previous
        ((issued.registeredIn user world.drawing).removing user previous) minted fresh
        (countsAlike_remove absent) (.service (.invalidToken .refresh)) with
        ⟨rollBackFails, described⟩ | described
      · refine ⟨.orphaned, described, fun _ => .missing ?_ rollBackFails⟩
        rw [World.clock_rollingBack]
        exact mt (issued.isLive_addedTo_iff user world _ previousKey).mpr absent
      · exact ⟨.unchanged, described, by simp⟩
  | rotated active registers follows stillActive removes present =>
      exact ⟨.rotated, ⟨_, rfl, minted, fun first => absurd first follows,
        fun _ => ⟨(issued.isLive_addedTo_iff user world _ previousKey).mp present, .refl _ _⟩⟩,
        by simp⟩

/-- A call leaves the clocks alone but for the time that passes while its token is registered. -/
theorem Settles.clock {context : Context} {user previous : Text} {issued : RefreshToken}
    {world after : World} {outcome : Except Failure Unit}
    (settles : Settles context user previous issued world outcome after) :
    after.clock = world.clock ∨ after.clock = world.clock.advance world.duringPut.elapsed := by
  cases settles with
  | late => exact .inl rfl
  | unregistered => exact .inl rfl
  | _ => exact .inr (by simp)

theorem Ends.clock {service : TokenService} {context : Option Context} {user : UserSnapshot}
    {previous : Text} {world after : World} {outcome : Except Failure TokenPair}
    (ends : Ends service context user previous world outcome after) :
    after.clock = world.clock ∨ after.clock = world.clock.advance world.duringPut.elapsed := by
  cases ends with
  | refused => exact .inl rfl
  | unminted => exact .inl rfl
  | settled admitted minted settles => exact settles.clock

theorem Ends.describes {service : TokenService} {context : Option Context} {user : UserSnapshot}
    {previous : Text} {world after : World} {outcome : Except Failure TokenPair}
    (ends : Ends service context user previous world outcome after)
    (fresh : ¬world.store.IsLive after.clock (StoreKey.join user.id world.nextId.text))
    (differs : previous ≠ world.nextId.text) :
    ∃ effect : Effect, effect.Describes service user.id previous world (outcome, after) ∧
      (effect = .orphaned →
        Orphans (service.resolve context) user.id previous world outcome after) := by
  cases ends with
  | refused => exact ⟨.unchanged, ⟨⟨_, rfl⟩, .refl _ _⟩, by simp⟩
  | unminted => exact ⟨.unchanged, ⟨⟨_, rfl⟩, .refl _ _⟩, by simp⟩
  | settled admitted minted settles =>
      exact settles.describes minted (isPart_of_admitted admitted).1 fresh differs

/-- A call for a pair has exactly one effect, whatever fails and whatever happens while it registers
its token.  It leaves that token registered without handing it out only for one of the causes, and
never touches an entry other than the new and the previous one. -/
theorem newPair_effect (service : TokenService) (context : Option Context) (user : UserSnapshot)
    (previous : Text) (world : World) (forward : 0 ≤ world.duringPut.elapsed)
    (fresh : ¬world.IsLive user.id world.nextId.text) (differs : previous ≠ world.nextId.text) :
    let result := runIn (service.newPair context user previous) world
    (∃! effect : Effect, effect.Describes service user.id previous world result) ∧
      (Effect.orphaned.Describes service user.id previous world result →
        Orphans (service.resolve context) user.id previous world result.1 result.2) ∧
      ∀ key, key ≠ StoreKey.join user.id previous →
        key ≠ StoreKey.join user.id world.nextId.text →
        result.2.store.liveDeadline? result.2.clock key =
          world.store.liveDeadline? result.2.clock key := by
  intro result
  obtain ⟨outcome, after, reports, ends, ran⟩ := runIn_newPair service context user previous world
  have stillFresh : ¬world.store.IsLive after.clock
      (StoreKey.join user.id world.nextId.text) := by
    rcases ends.clock with same | later
    · rw [same]
      exact fresh
    · rw [later]
      exact not_isLive_advance forward fresh
  obtain ⟨effect, described, cause⟩ := ends.describes stillFresh differs
  have isResult : result = (outcome, after.withReports reports) := ran
  simp only [isResult, Effect.describes_withReports, World.store_withReports,
    World.clock_withReports]
  refine ⟨⟨effect, described, fun other shown => shown.unique described stillFresh⟩, ?_,
    fun key notPrevious notNew => described.frame notPrevious notNew⟩
  intro orphaned
  cases cause (described.unique orphaned stillFresh) with
  | expired active expires => exact .expired active expires
  | unremoved fails rollBackFails => exact .unremoved fails rollBackFails
  | missing absent rollBackFails => exact .missing absent rollBackFails

/-- A token that counts is named as the previous one while nothing can be deleted.  The new one is
left behind. -/
theorem sample_effect_without_deletion :
    let previous := (TokenId.numbered 9).text
    let world : World :=
      { World.sample with
        store := .memory ⟨[(StoreKey.join "u" previous, .ofInt 5)]⟩
        faults := { delete := .everywhere } }
    let result := runIn (sample.newPair none { id := "u" } previous) world
    (0 ≤ world.duringPut.elapsed ∧ ¬world.IsLive "u" world.nextId.text ∧
        previous ≠ world.nextId.text) ∧
      Effect.orphaned.Describes sample "u" previous world result ∧
      (∀ effect : Effect, effect.Describes sample "u" previous world result →
        effect = .orphaned) ∧
      Orphans (sample.resolve none) "u" previous world result.1 result.2 := by
  intro previous world result
  have forward : 0 ≤ world.duringPut.elapsed := by decide
  have fresh : ¬world.IsLive "u" world.nextId.text := by decide +kernel
  have differs : previous ≠ world.nextId.text := by decide +kernel
  have dated : sample.IsDatedAt world.clock.wall := by
    constructor <;> decide
  have userPart : StoreKey.isPart ({ id := "u" } : UserSnapshot).id = true := by decide
  obtain ⟨identity, refresh, admitted, minted⟩ :=
    exists_minted_rotation signs_sample dated userPart (.numbered 9)
  have ends : Ends sample none { id := "u" } previous world (.error (.service .storeUnavailable))
      ((refresh.registeredIn "u" world.drawing).rollingBack "u" refresh.id.text) :=
    .settled admitted minted (.unremoved rfl rfl (TokenId.text_ne_nil _) rfl rfl)
  obtain ⟨reports, ran⟩ := runIn_newPair_of_ends ends
  have live := world.store.isLive_register_self world.clock
    (StoreKey.join "u" refresh.id.text)
    (Duration.one_le_storeSeconds (refresh.timeLeft world.clock.wall))
  have orphaned : Effect.orphaned.Describes sample "u" previous world result := by
    rw [show result = _ from ran, Effect.describes_withReports]
    refine ⟨⟨_, rfl⟩, ?_, refresh, minted, .refl _ _⟩
    rw [← (mint_eq_ok minted).1]
    exact live
  obtain ⟨⟨effect, -, unique⟩, causes, -⟩ :=
    newPair_effect sample none { id := "u" } previous world forward fresh differs
  refine ⟨⟨forward, fresh, differs⟩, orphaned, ?_, causes orphaned⟩
  intro other described
  exact (unique other described).trans (unique _ orphaned).symm

end TokenService

end TokenAuthority
