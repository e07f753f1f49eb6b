import TokenAuthority.Proofs.Store.Memory
import TokenAuthority.Proofs.Store.Remote
import TokenAuthority.Proofs.Time.Clock
import TokenAuthority.Proofs.Token.Id
import TokenAuthority.Service.World

/-!
A store of either kind, seen through the entries that count.

The two kinds of stores keep deadlines on different clocks and end an entry at different instants.
A `Deadline` is one on either clock, and `Store.liveDeadline?` is what the stores have in common:
the deadline of a key that counts at a reading of the clocks.  Registering gives one key a deadline,
removing takes one key away, and both leave every other key as it was.
-/

namespace TokenAuthority

@[simp]
theorem Clock.advance_zero (clock : Clock) : clock.advance 0 = clock := by
  simp [advance]

@[simp]
theorem Clock.advance_advance (clock : Clock) (first second : Int) :
    (clock.advance first).advance second = clock.advance (first + second) := by
  unfold advance
  simp only [Clock.mk.injEq]
  omega

/-- An instant at which an entry ends, on the clock of the store that keeps it. -/
inductive Deadline where
  /-- Seconds of the ticking clock: the entry counts strictly before. -/
  | ticking (seconds : Binary64)
  /-- Microseconds of the wall clock: the entry counts up to and at it. -/
  | wall (microseconds : Int)
deriving DecidableEq, Repr

/-- Whether an entry with a deadline counts at a reading of the clocks. -/
def Deadline.isAhead (clock : Clock) : Deadline → Bool
  | .ticking deadline => !deadline.atMost clock.seconds
  | .wall deadline => clock.wall ≤ deadline

theorem Deadline.isAhead_ticking_of_later {clock later : Clock} (ticked : clock.ticks ≤ later.ticks)
    {seconds : Binary64} (ahead : (ticking seconds).isAhead later = true) :
    (ticking seconds).isAhead clock = true := by
  simp only [isAhead, Bool.not_eq_true'] at ahead ⊢
  exact (Clock.precedes_seconds ticked).atMost_eq_false ahead

/-- A deadline that is ahead was so before. -/
theorem Deadline.isAhead_of_later {clock later : Clock} (ticked : clock.ticks ≤ later.ticks)
    (dated : clock.wall ≤ later.wall) {deadline : Deadline}
    (ahead : deadline.isAhead later = true) :
    deadline.isAhead clock = true := by
  cases deadline with
  | ticking deadline => exact isAhead_ticking_of_later ticked ahead
  | wall deadline =>
      simp only [isAhead, decide_eq_true_eq] at ahead ⊢
      omega

/-- Whether a deadline is ahead for some seconds after a reading of the ticking clock, and perhaps
still at the millisecond at which they end. -/
structure Deadline.EndsAfter (deadline : Deadline) (issued : Clock) (seconds : Int) : Prop where
  ahead : ∀ later : Clock, later.reading < issued.reading + seconds * 1000 →
    deadline.isAhead later = true
  passed : ∀ later : Clock, issued.reading + seconds * 1000 < later.reading →
    deadline.isAhead later = false

theorem Deadline.endsAfter_ticking (issued : Clock) {seconds : Int} (positive : 0 < seconds) :
    EndsAfter (.ticking (issued.seconds.add (.ofInt seconds))) issued seconds := by
  obtain ⟨span, rfl⟩ := Int.eq_ofNat_of_zero_le positive.le
  have spanPositive : 0 < span := by omega
  constructor
  · intro later before
    simp only [isAhead, Bool.not_eq_true']
    exact Clock.atMost_add_of_lt spanPositive before
  · intro later after
    simp only [isAhead, Bool.not_eq_false']
    exact Clock.atMost_add_of_gt spanPositive after

namespace Store

/-- The deadline that a store keeps for a key, also when the entry no longer counts. -/
def find? (store : Store) (key : Text) : Option Deadline :=
  match store with
  | .memory store => (store.entries.find? key).map .ticking
  | .remote server => (server.entries.find? key).map .wall

def keys : Store → List Text
  | .memory store => store.entries.keys
  | .remote server => server.entries.keys

/-- The deadline of a key that counts. -/
def liveDeadline? (store : Store) (clock : Clock) (key : Text) : Option Deadline :=
  (store.find? key).filter (Deadline.isAhead clock)

def IsLive (store : Store) (clock : Clock) (key : Text) : Prop :=
  (store.liveDeadline? clock key).isSome = true

/-- The deadline a number of seconds from now. -/
def deadlineAfter (store : Store) (clock : Clock) (seconds : Int) : Deadline :=
  match store with
  | .memory _ => .ticking (clock.seconds.add (.ofInt seconds))
  | .remote _ => .wall (clock.wall + seconds * microsecondsPerSecond)

/-- The store in which a key counts for a number of seconds from now. -/
def register (store : Store) (clock : Clock) (key : Text) (seconds : Int) : Store :=
  match store with
  | .memory store => .memory ⟨store.entries.set key (clock.seconds.add (.ofInt seconds))⟩
  | .remote server => .remote (server.set clock.wall key seconds)

def remove (store : Store) (key : Text) : Store :=
  match store with
  | .memory store => .memory ⟨store.entries.erase key⟩
  | .remote server => .remote ⟨server.entries.erase key⟩

/-- The store after every key that begins with a text was removed. -/
def clear (store : Store) (clock : Clock) (start : Text) : Store :=
  match store with
  | .memory store => .memory (store.cleared clock.seconds start)
  | .remote server => .remote (server.cleared clock.wall start).server

/-- How many keys a removal of the keys that begin with a text counts. -/
def countFrom (store : Store) (clock : Clock) (start : Text) : Nat :=
  match store with
  | .memory store =>
      (store.keysFrom start).countP fun key => (store.liveDeadline? clock.seconds key).isSome
  | .remote server => (server.cleared clock.wall start).removed

def touch (store : Store) (clock : Clock) (key : Text) : Store :=
  match store with
  | .memory store => .memory (store.check clock.seconds key).2
  | .remote server => .remote server

/-- Whether the same entries count in two stores, with the same deadlines. -/
def CountsAlike (clock : Clock) (first second : Store) : Prop :=
  ∀ key, first.liveDeadline? clock key = second.liveDeadline? clock key

/-- Whether a store is the one in the memory of the process. -/
def InMemory : Store → Prop
  | .memory _ => True
  | .remote _ => False

/-- Whether a text can be a part of what a store is asked for; to a key server it is encoded. -/
def takes (store : Store) (text : Text) : Bool :=
  match store with
  | .memory _ => true
  | .remote _ => text.isEncodable

theorem takes_of_isEncodable {text : Text} (encodable : text.isEncodable = true) (store : Store) :
    store.takes text = true := by
  cases store with
  | memory store => rfl
  | remote server => exact encodable

@[simp]
theorem takes_id (store : Store) (id : TokenId) : store.takes id.text = true :=
  store.takes_of_isEncodable id.isEncodable_text

@[simp]
theorem takes_join (store : Store) (user token : Text) :
    store.takes (StoreKey.join user token) = (store.takes user && store.takes token) := by
  cases store with
  | memory store => rfl
  | remote server => exact StoreKey.isEncodable_join user token

/-- Whether a store takes the key of a token depends on the user alone. -/
theorem takes_join_text (store : Store) (user : Text) (id : TokenId) :
    store.takes (StoreKey.join user id.text) = store.takes user := by
  rw [takes_join, takes_id, Bool.and_true]

@[simp]
theorem takes_startingWith (store : Store) (user : Text) :
    store.takes (Pattern.startingWith (StoreKey.userStart user)) = store.takes user := by
  cases store with
  | memory store => rfl
  | remote server =>
      exact (Pattern.isEncodable_startingWith _).trans (StoreKey.isEncodable_userStart user)

instance (store : Store) (clock : Clock) (key : Text) : Decidable (store.IsLive clock key) :=
  inferInstanceAs (Decidable ((store.liveDeadline? clock key).isSome = true))

theorem isLive_iff (store : Store) (clock : Clock) (key : Text) :
    store.IsLive clock key ↔ ∃ deadline, store.liveDeadline? clock key = some deadline :=
  Option.isSome_iff_exists

theorem not_isLive_iff (store : Store) (clock : Clock) (key : Text) :
    ¬store.IsLive clock key ↔ store.liveDeadline? clock key = none := by
  unfold IsLive
  rw [Bool.not_eq_true, Option.isSome_eq_false_iff, Option.isNone_iff_eq_none]

theorem isLive_congr {first second : Store} {clock later : Clock} {key other : Text}
    (same : first.liveDeadline? clock key = second.liveDeadline? later other) :
    first.IsLive clock key ↔ second.IsLive later other := by
  unfold IsLive
  rw [same]

theorem CountsAlike.refl (clock : Clock) (store : Store) : CountsAlike clock store store :=
  fun _ => rfl

theorem CountsAlike.isLive_iff {clock : Clock} {first second : Store}
    (alike : CountsAlike clock first second) (key : Text) :
    first.IsLive clock key ↔ second.IsLive clock key :=
  isLive_congr (alike key)

/-! ### Deadlines that are kept and deadlines that count -/

theorem liveDeadline?_eq_some_iff (store : Store) (clock : Clock) (key : Text)
    (deadline : Deadline) :
    store.liveDeadline? clock key = some deadline ↔
      store.find? key = some deadline ∧ deadline.isAhead clock = true :=
  Option.filter_eq_some_iff

theorem mem_keys_iff (store : Store) (key : Text) :
    key ∈ store.keys ↔ ∃ deadline, store.find? key = some deadline := by
  cases store <;>
    · simp only [keys, find?, Table.mem_keys_iff, Option.map_eq_some_iff]
      exact ⟨fun ⟨deadline, found⟩ => ⟨_, deadline, found, rfl⟩,
        fun ⟨_, deadline, found, _⟩ => ⟨deadline, found⟩⟩

/-- What a store counts depends on the deadline that it keeps for the key alone. -/
theorem liveDeadline?_congr {first second : Store} {key : Text}
    (same : first.find? key = second.find? key) (clock : Clock) :
    first.liveDeadline? clock key = second.liveDeadline? clock key := by
  unfold liveDeadline?
  rw [same]

theorem liveDeadline?_memory (store : MemoryStore) (clock : Clock) (key : Text) :
    (memory store).liveDeadline? clock key =
      (store.liveDeadline? clock.seconds key).map .ticking := by
  unfold liveDeadline? find? MemoryStore.liveDeadline?
  rw [Option.filter_map]
  rfl

theorem liveDeadline?_remote (server : KeyServer) (clock : Clock) (key : Text) :
    (remote server).liveDeadline? clock key = (server.liveDeadline? clock.wall key).map .wall := by
  unfold liveDeadline? find? KeyServer.liveDeadline?
  rw [Option.filter_map]
  rfl

@[simp]
theorem isSome_liveDeadline?_memory (store : MemoryStore) (clock : Clock) (key : Text) :
    ((memory store).liveDeadline? clock key).isSome =
      (store.liveDeadline? clock.seconds key).isSome := by
  rw [liveDeadline?_memory, Option.isSome_map]

@[simp]
theorem isSome_liveDeadline?_remote (server : KeyServer) (clock : Clock) (key : Text) :
    ((remote server).liveDeadline? clock key).isSome =
      (server.liveDeadline? clock.wall key).isSome := by
  rw [liveDeadline?_remote, Option.isSome_map]

/-! ### Registering and removing a key -/

@[simp]
theorem find?_register (store : Store) (clock : Clock) (written key : Text) (seconds : Int) :
    (store.register clock written seconds).find? key =
      if key = written then some (store.deadlineAfter clock seconds) else store.find? key := by
  cases store <;>
    · simp only [register, find?, deadlineAfter, KeyServer.set, Table.find?_set]
      split <;> rfl

@[simp]
theorem find?_remove (store : Store) (removed key : Text) :
    (store.remove removed).find? key = if key = removed then none else store.find? key := by
  cases store <;>
    · simp only [remove, find?, Table.find?_erase]
      split <;> rfl

@[simp]
theorem deadlineAfter_register (store : Store) (clock later : Clock) (key : Text)
    (seconds span : Int) :
    (store.register clock key seconds).deadlineAfter later span =
      store.deadlineAfter later span := by
  cases store <;> rfl

@[simp]
theorem deadlineAfter_remove (store : Store) (key : Text) (later : Clock) (span : Int) :
    (store.remove key).deadlineAfter later span = store.deadlineAfter later span := by
  cases store <;> rfl

@[simp]
theorem liveDeadline?_remove (store : Store) (clock : Clock) (removed key : Text) :
    (store.remove removed).liveDeadline? clock key =
      if key = removed then none else store.liveDeadline? clock key := by
  unfold liveDeadline?
  rw [find?_remove]
  split <;> rfl

theorem liveDeadline?_register_of_ne (store : Store) (clock later : Clock) {written key : Text}
    (differs : key ≠ written) (seconds : Int) :
    (store.register clock written seconds).liveDeadline? later key =
      store.liveDeadline? later key :=
  liveDeadline?_congr (by simp [differs]) later

theorem liveDeadline?_register_self (store : Store) (clock later : Clock) (key : Text)
    (seconds : Int) :
    (store.register clock key seconds).liveDeadline? later key =
      (some (store.deadlineAfter clock seconds)).filter (Deadline.isAhead later) := by
  unfold liveDeadline?
  rw [find?_register, if_pos rfl]

@[simp]
theorem takes_register (store : Store) (clock : Clock) (key : Text) (seconds : Int) (text : Text) :
    (store.register clock key seconds).takes text = store.takes text := by
  cases store <;> rfl

@[simp]
theorem takes_remove (store : Store) (key text : Text) :
    (store.remove key).takes text = store.takes text := by
  cases store <;> rfl

@[simp]
theorem takes_clear (store : Store) (clock : Clock) (start text : Text) :
    (store.clear clock start).takes text = store.takes text := by
  cases store <;> rfl

@[simp]
theorem inMemory_register (store : Store) (clock : Clock) (key : Text) (seconds : Int) :
    (store.register clock key seconds).InMemory ↔ store.InMemory := by
  cases store <;> rfl

@[simp]
theorem inMemory_remove (store : Store) (key : Text) :
    (store.remove key).InMemory ↔ store.InMemory := by
  cases store <;> rfl

@[simp]
theorem inMemory_clear (store : Store) (clock : Clock) (start : Text) :
    (store.clear clock start).InMemory ↔ store.InMemory := by
  cases store <;> rfl

/-- What is registered counts as long as its deadline is ahead. -/
theorem liveDeadline?_register_self_eq_some_iff (store : Store) (clock later : Clock) (key : Text)
    (seconds : Int) (deadline : Deadline) :
    (store.register clock key seconds).liveDeadline? later key = some deadline ↔
      deadline = store.deadlineAfter clock seconds ∧ deadline.isAhead later = true := by
  rw [liveDeadline?_register_self, Option.filter_eq_some_iff, Option.some.injEq]
  exact and_congr_left fun _ => eq_comm

theorem liveDeadline?_later_eq_some_iff {store : Store} (inMemory : store.InMemory)
    {clock later : Clock} (order : clock.ticks ≤ later.ticks) (key : Text)
    (deadline : Deadline) :
    store.liveDeadline? later key = some deadline ↔
      store.liveDeadline? clock key = some deadline ∧ deadline.isAhead later = true := by
  cases store with
  | remote server => exact inMemory.elim
  | memory store =>
      rw [liveDeadline?_eq_some_iff, liveDeadline?_eq_some_iff]
      constructor
      · rintro ⟨found, ahead⟩
        refine ⟨⟨found, ?_⟩, ahead⟩
        obtain ⟨seconds, -, rfl⟩ := Option.map_eq_some_iff.mp found
        exact Deadline.isAhead_ticking_of_later order ahead
      · rintro ⟨⟨found, -⟩, ahead⟩
        exact ⟨found, ahead⟩

/-- A deadline is ahead as long as less time has passed than the seconds that it was set for. -/
theorem isAhead_deadlineAfter (store : Store) (issued : Clock) {seconds milliseconds : Int}
    (positive : 0 < seconds) (within : milliseconds < seconds * 1000) :
    (store.deadlineAfter issued seconds).isAhead (issued.advance milliseconds) = true := by
  cases store with
  | memory store =>
      exact (Deadline.endsAfter_ticking issued positive).ahead _
        (issued.reading_advance_lt (by omega) within)
  | remote server =>
      have ahead : (issued.advance milliseconds).wall ≤
          issued.wall + seconds * microsecondsPerSecond := by
        simp only [Clock.advance, microsecondsPerSecond]
        omega
      exact decide_eq_true ahead

theorem deadlineAfter_of_inMemory {store : Store} (inMemory : store.InMemory) (clock : Clock)
    (seconds : Int) :
    store.deadlineAfter clock seconds = .ticking (clock.seconds.add (.ofInt seconds)) := by
  cases store with
  | memory store => rfl
  | remote server => exact inMemory.elim

theorem isLive_register_self (store : Store) (clock : Clock) (key : Text) {seconds : Int}
    (positive : 0 < seconds) : (store.register clock key seconds).IsLive clock key := by
  have ahead := store.isAhead_deadlineAfter clock positive
    (show (0 : Int) < seconds * 1000 by omega)
  rw [Clock.advance_zero] at ahead
  unfold IsLive
  rw [liveDeadline?_register_self, Option.filter_some_pos ahead]
  rfl

theorem CountsAlike.trans {clock : Clock} {first second third : Store}
    (left : CountsAlike clock first second) (right : CountsAlike clock second third) :
    CountsAlike clock first third :=
  fun key => (left key).trans (right key)

/-- Stores that count alike still do when the same key is removed from both. -/
theorem CountsAlike.remove {clock : Clock} {first second : Store}
    (alike : CountsAlike clock first second) (key : Text) :
    CountsAlike clock (first.remove key) (second.remove key) := by
  intro other
  rw [liveDeadline?_remove, liveDeadline?_remove, alike other]

/-- Removing a key that does not count makes no difference. -/
theorem countsAlike_remove {store : Store} {clock : Clock} {key : Text}
    (dead : ¬store.IsLive clock key) : CountsAlike clock (store.remove key) store := by
  intro other
  rw [liveDeadline?_remove]
  split
  · next same => rw [same, (store.not_isLive_iff clock key).mp dead]
  · rfl

/-- Nor does registering a key that does not count, once it has been removed again. -/
theorem countsAlike_remove_register {store : Store} {clock later : Clock} {key : Text}
    (dead : ¬store.IsLive later key) (seconds : Int) :
    CountsAlike later ((store.register clock key seconds).remove key) store := by
  intro other
  rw [liveDeadline?_remove]
  split
  · next same => rw [same, (store.not_isLive_iff later key).mp dead]
  · next differs => exact store.liveDeadline?_register_of_ne clock later differs seconds

/-- Nor does registering it, once its new entry does not count any more. -/
theorem countsAlike_register_of_ended {store : Store} {clock later : Clock} {key : Text}
    {seconds : Int} (dead : ¬store.IsLive later key)
    (ended : ¬(store.register clock key seconds).IsLive later key) :
    CountsAlike later (store.register clock key seconds) store := by
  intro other
  by_cases same : other = key
  · rw [same, (store.not_isLive_iff later key).mp dead, (not_isLive_iff _ later key).mp ended]
  · exact store.liveDeadline?_register_of_ne clock later same seconds

/-- Clearing removes the keys that begin with the text and leaves all others as they were. -/
theorem liveDeadline?_clear (store : Store) (clock : Clock) (start key : Text) :
    (store.clear clock start).liveDeadline? clock key =
      if start <+: key then none else store.liveDeadline? clock key := by
  cases store with
  | memory store =>
      rw [clear, liveDeadline?_memory, liveDeadline?_memory, store.liveDeadline?_cleared]
      split <;> rfl
  | remote server =>
      rw [clear, liveDeadline?_remote, liveDeadline?_remote,
        server.liveDeadline?_cleared (Int.le_refl _)]
      split <;> rfl

/-! ### Time that passes -/

/-- A key that does not count does not count later either. -/
theorem liveDeadline?_advance_eq_none {store : Store} {clock : Clock} {key : Text}
    {milliseconds : Int} (forward : 0 ≤ milliseconds)
    (dead : store.liveDeadline? clock key = none) :
    store.liveDeadline? (clock.advance milliseconds) key = none := by
  refine Option.eq_none_iff_forall_ne_some.mpr fun deadline live => ?_
  obtain ⟨found, ahead⟩ := (liveDeadline?_eq_some_iff _ _ _ _).mp live
  have before : deadline.isAhead clock = true :=
    Deadline.isAhead_of_later (by simp [Clock.advance]; omega)
      (by simp [Clock.advance]; omega) ahead
  rw [(liveDeadline?_eq_some_iff _ _ _ _).mpr ⟨found, before⟩] at dead
  cases dead

theorem not_isLive_advance {store : Store} {clock : Clock} {key : Text} {milliseconds : Int}
    (forward : 0 ≤ milliseconds) (dead : ¬store.IsLive clock key) :
    ¬store.IsLive (clock.advance milliseconds) key := by
  rw [not_isLive_iff] at dead ⊢
  exact liveDeadline?_advance_eq_none forward dead

/-- The deadline of a key that counts is the one that the store keeps for it. -/
theorem find?_of_live {store : Store} {clock : Clock} {key : Text} {deadline : Deadline}
    (live : store.liveDeadline? clock key = some deadline) : store.find? key = some deadline :=
  ((liveDeadline?_eq_some_iff _ _ _ _).mp live).1

/-- An entry counts as long as less time has passed than it was registered for. -/
theorem isLive_advance_of_find? {store : Store} {issued : Clock} {key : Text}
    {seconds milliseconds : Int} (positive : 0 < seconds)
    (entry : store.find? key = some (store.deadlineAfter issued seconds))
    (within : milliseconds < seconds * 1000) : store.IsLive (issued.advance milliseconds) key := by
  rw [isLive_iff]
  exact ⟨_, (liveDeadline?_eq_some_iff _ _ _ _).mpr
    ⟨entry, store.isAhead_deadlineAfter issued positive within⟩⟩

/-- While a key does not end, its deadline stays as it is. -/
theorem liveDeadline?_advance_of_quiet {store : Store} {clock : Clock} {key : Text}
    {milliseconds : Int} (forward : 0 ≤ milliseconds)
    (quiet : store.IsLive clock key → store.IsLive (clock.advance milliseconds) key) :
    store.liveDeadline? (clock.advance milliseconds) key = store.liveDeadline? clock key := by
  cases now : store.liveDeadline? clock key with
  | none => exact liveDeadline?_advance_eq_none forward now
  | some deadline =>
      obtain ⟨later, found⟩ :=
        (store.isLive_iff _ key).mp (quiet ((store.isLive_iff _ key).mpr ⟨deadline, now⟩))
      rw [found, ← find?_of_live found, find?_of_live now]

end Store

namespace World

def IsLive (world : World) (user token : Text) : Prop :=
  world.store.IsLive world.clock (StoreKey.join user token)

instance (world : World) (user token : Text) : Decidable (world.IsLive user token) :=
  inferInstanceAs (Decidable (world.store.IsLive world.clock (StoreKey.join user token)))

end World

end TokenAuthority
