import Mathlib.Data.Finset.Card
import TokenAuthority.Proofs.Service.Session
import TokenAuthority.Proofs.Service.Stillness

/-!
What calls do to the entries of users.

In a still world a call that presents a token exchanges its entry for a fresh one of the same user
if it succeeds, and a sign-out removes the entries of its user.  Neither leaves any user with more
entries than before.
-/

namespace TokenAuthority

open Store

/-! ### Changes of entries -/

/-- Whether one entry of a user was exchanged for a fresh one, and nothing else was changed. -/
structure World.Exchanges (before after : World) (user old fresh : Text) : Prop where
  userPart : StoreKey.isPart user = true
  freshPart : StoreKey.isPart fresh = true
  present : before.IsLive user old
  absent : ¬before.IsLive user fresh
  entries : ∃ deadline, ∀ key, after.store.liveDeadline? after.clock key =
    if key = StoreKey.join user old then none
    else if key = StoreKey.join user fresh then some deadline
    else before.store.liveDeadline? before.clock key

/-- Whether all entries of a user were removed, and nothing else was changed. -/
def World.Clears (before after : World) (user : Text) : Prop :=
  ∀ key, after.store.liveDeadline? after.clock key =
    if StoreKey.userStart user <+: key then none
    else before.store.liveDeadline? before.clock key

/-- Whether the same entries count in two worlds. -/
def World.CountAlike (before after : World) : Prop :=
  ∀ key, after.store.liveDeadline? after.clock key =
    before.store.liveDeadline? before.clock key

/-- The keys of a user that count. -/
def World.liveKeys (world : World) (user : Text) : Finset Text :=
  world.store.keys.toFinset.filter fun key =>
    world.store.IsLive world.clock key ∧ StoreKey.userStart user <+: key

/-- Whether no user comes to have more entries, and none gets a first one. -/
def World.GainsNone (before after : World) : Prop :=
  ∀ user, (after.liveKeys user).card ≤ (before.liveKeys user).card ∧
    (before.liveKeys user = ∅ → after.liveKeys user = ∅)

namespace World

@[simp]
theorem mem_liveKeys_iff (world : World) (user key : Text) :
    key ∈ world.liveKeys user ↔
      world.store.IsLive world.clock key ∧ StoreKey.userStart user <+: key := by
  unfold liveKeys
  simp only [Finset.mem_filter, List.mem_toFinset, and_iff_right_iff_imp]
  rintro ⟨live, -⟩
  obtain ⟨deadline, counts⟩ := (isLive_iff _ _ _).mp live
  exact (mem_keys_iff _ _).mpr ⟨deadline, find?_of_live counts⟩

variable {before after : World}

theorem CountAlike.liveKeys_eq (alike : CountAlike before after) (user : Text) :
    after.liveKeys user = before.liveKeys user := by
  ext key
  simp only [mem_liveKeys_iff, isLive_congr (alike key)]

theorem Clears.liveKeys_subset {cleared : Text} (clears : Clears before after cleared)
    (user : Text) : after.liveKeys user ⊆ before.liveKeys user := by
  intro key
  simp only [mem_liveKeys_iff]
  rintro ⟨live, begins⟩
  obtain ⟨deadline, counts⟩ := (isLive_iff _ _ _).mp live
  rw [clears key] at counts
  split at counts
  · cases counts
  · exact ⟨(isLive_iff _ _ _).mpr ⟨deadline, counts⟩, begins⟩

/-- Only the entries and the clocks of both worlds matter. -/
theorem Exchanges.congr {user old fresh : Text}
    (exchanges : Exchanges before after user old fresh) {first last : World}
    (firstStore : first.store = before.store) (firstClock : first.clock = before.clock)
    (lastStore : last.store = after.store) (lastClock : last.clock = after.clock) :
    Exchanges first last user old fresh where
  userPart := exchanges.userPart
  freshPart := exchanges.freshPart
  present := by
    unfold IsLive
    rw [firstStore, firstClock]
    exact exchanges.present
  absent := by
    unfold IsLive
    rw [firstStore, firstClock]
    exact exchanges.absent
  entries := by
    rw [firstStore, firstClock, lastStore, lastClock]
    exact exchanges.entries

/-- What counts after an exchange is the fresh entry, or counted before and is not the old one. -/
theorem Exchanges.of_isLive {user old fresh : Text}
    (exchanges : Exchanges before after user old fresh) {key : Text}
    (live : after.store.IsLive after.clock key) :
    key ≠ StoreKey.join user old ∧
      (key = StoreKey.join user fresh ∨ before.store.IsLive before.clock key) := by
  obtain ⟨replaced, entries⟩ := exchanges.entries
  obtain ⟨deadline, counts⟩ := (isLive_iff _ _ _).mp live
  rw [entries key] at counts
  split at counts
  · cases counts
  · next notOld =>
      split at counts
      · next isFresh => exact ⟨notOld, .inl isFresh⟩
      · exact ⟨notOld, .inr ((isLive_iff _ _ _).mpr ⟨deadline, counts⟩)⟩

/-- An exchange leaves its user with as many entries, and the others with theirs. -/
theorem Exchanges.card_liveKeys_le {owner old fresh : Text}
    (exchanges : Exchanges before after owner old fresh) (user : Text) :
    (after.liveKeys user).card ≤ (before.liveKeys user).card := by
  have beginsLike := StoreKey.userStart_isPrefix_join_iff_of_isPart exchanges.userPart
    exchanges.freshPart user
  by_cases own : user = owner
  · have covered : after.liveKeys user ⊆ insert (StoreKey.join owner fresh)
        ((before.liveKeys user).erase (StoreKey.join owner old)) := by
      intro key
      simp only [mem_liveKeys_iff, Finset.mem_insert, Finset.mem_erase]
      rintro ⟨live, begins⟩
      obtain ⟨notOld, isFresh | lived⟩ := exchanges.of_isLive live
      · exact .inl isFresh
      · exact .inr ⟨notOld, lived, begins⟩
    have member : StoreKey.join owner old ∈ before.liveKeys user := by
      simp only [mem_liveKeys_iff]
      refine ⟨exchanges.present, ?_⟩
      rw [own]
      exact StoreKey.isPrefix_join owner old
    calc (after.liveKeys user).card
        ≤ (insert (StoreKey.join owner fresh)
            ((before.liveKeys user).erase (StoreKey.join owner old))).card :=
          Finset.card_le_card covered
      _ ≤ ((before.liveKeys user).erase (StoreKey.join owner old)).card + 1 :=
          Finset.card_insert_le _ _
      _ = (before.liveKeys user).card := Finset.card_erase_add_one member
  · apply Finset.card_le_card
    intro key
    simp only [mem_liveKeys_iff]
    rintro ⟨live, begins⟩
    obtain ⟨-, isFresh | lived⟩ := exchanges.of_isLive live
    · rw [isFresh] at begins
      exact absurd (beginsLike.mp begins) own
    · exact ⟨lived, begins⟩

/-- Time adds no entries. -/
theorem liveKeys_advance_subset (world : World) {milliseconds : Int} (forward : 0 ≤ milliseconds)
    (user : Text) : (world.advance milliseconds).liveKeys user ⊆ world.liveKeys user := by
  intro key
  simp only [mem_liveKeys_iff]
  rintro ⟨live, begins⟩
  refine ⟨?_, begins⟩
  by_contra dead
  exact not_isLive_advance forward dead live

theorem GainsNone.of_card_le
    (bounded : ∀ user, (after.liveKeys user).card ≤ (before.liveKeys user).card) :
    before.GainsNone after := by
  intro user
  refine ⟨bounded user, ?_⟩
  intro hadNone
  have none := bounded user
  rw [hadNone, Finset.card_empty, Nat.le_zero] at none
  exact Finset.card_eq_zero.mp none

theorem gainsNone_refl (world : World) : world.GainsNone world :=
  fun _ => ⟨Nat.le_refl _, id⟩

theorem GainsNone.trans {middle : World} (first : before.GainsNone middle)
    (second : middle.GainsNone after) : before.GainsNone after :=
  fun user => ⟨(second user).1.trans (first user).1, (second user).2 ∘ (first user).2⟩

theorem gainsNone_advance (world : World) {milliseconds : Int} (forward : 0 ≤ milliseconds) :
    world.GainsNone (world.advance milliseconds) :=
  .of_card_le fun user => Finset.card_le_card (world.liveKeys_advance_subset forward user)

theorem CountAlike.gainsNone (alike : CountAlike before after) : before.GainsNone after :=
  .of_card_le fun user => (congrArg Finset.card (alike.liveKeys_eq user)).le

theorem Clears.gainsNone {cleared : Text} (clears : Clears before after cleared) :
    before.GainsNone after :=
  .of_card_le fun user => Finset.card_le_card (clears.liveKeys_subset user)

end World

/-! ### Calls -/

namespace TokenService

open Call

variable {service : TokenService} {user : UserSnapshot} {previous : Text} {world after : World}

/-- A call that hands out a pair in a still world exchanged the entry that it was given. -/
theorem EndsStill.exchanges {pair : TokenPair}
    (ends : EndsStill service user previous world (.ok pair) after)
    (clock : after.clock = world.clock) :
    world.Exchanges after user.id previous world.nextId.text := by
  cases ends with
  | exchanged userPart minted present absent differs alike =>
      have newId := (mint_eq_ok minted).1
      obtain ⟨deadline, counts⟩ := (isLive_iff _ _ _).mp
        (world.store.isLive_register_self world.clock (StoreKey.join user.id pair.refresh.id.text)
          (Duration.one_le_storeSeconds (pair.refresh.timeLeft world.clock.wall)))
      refine ⟨userPart, TokenId.isPart_text _, present, absent, deadline, ?_⟩
      intro key
      rw [clock, alike key, liveDeadline?_remove]
      refine if_congr Iff.rfl rfl ?_
      rw [← newId]
      split
      · next isNew =>
          rw [isNew]
          exact counts
      · next notNew => exact world.store.liveDeadline?_register_of_ne _ _ notNew _

theorem EndsStill.countAlike {failure : Failure}
    (ends : EndsStill service user previous world (.error failure) after)
    (clock : after.clock = world.clock) : world.CountAlike after := by
  cases ends with
  | failed alike =>
      intro key
      rw [clock]
      exact alike key

end TokenService

theorem World.clears_clearing (world : World) (user : Text) :
    world.Clears (world.clearing user) user :=
  fun key => world.store.liveDeadline?_clear world.clock (StoreKey.userStart user) key

end TokenAuthority
