import TokenAuthority.Proofs.Service.StoreView
import TokenAuthority.Proofs.Store.TimeLeft

/-!
A memory store and a key server that hold the same entries.

The stores keep deadlines on different clocks, in floating-point seconds and in microseconds, and
the memory store drops ended entries while the server keeps them out of sight.  They are aligned
when under every key both keep what one registration has left, or nothing that still counts.  At the
very instant of a deadline they may disagree, so what they answer agrees away from such instants.
-/

namespace TokenAuthority

/-- Whether both clocks have advanced alike from one reading to another. -/
def Clock.InStep (earlier later : Clock) : Prop :=
  later.wall - earlier.wall = (later.reading - earlier.reading) * 1000

instance (earlier later : Clock) : Decidable (earlier.InStep later) :=
  inferInstanceAs (Decidable (_ = _))

theorem Clock.InStep.refl (clock : Clock) : InStep clock clock := by
  simp [InStep]

theorem Clock.InStep.trans {first second third : Clock} (left : InStep first second)
    (right : InStep second third) : InStep first third := by
  unfold InStep at *
  omega

namespace Store

/-- Whether a store in memory and a key server keep under a key what one registration has left, or
nothing that counts. -/
inductive KeepsAlike (clock : Clock) (here : Option Binary64) (there : Option Int) : Prop where
  | registered (issued : Clock) (seconds : Nat) (positive : 0 < seconds)
      (inStep : issued.InStep clock)
      (isHere : here = some (issued.seconds.add (.ofInt seconds)))
      (isThere : there = some (issued.wall + seconds * microsecondsPerSecond))
  | ended (notHere : ∀ deadline ∈ here, deadline.atMost clock.seconds = true)
      (notThere : ∀ deadline ∈ there, deadline < clock.wall)

namespace KeepsAlike

variable {clock : Clock} {here : Option Binary64} {there : Option Int}

theorem of_none (clock : Clock) (notThere : ∀ deadline ∈ there, deadline < clock.wall) :
    KeepsAlike clock none there :=
  .ended (by simp) notThere

/-- What is kept alike, away from its deadline, counts on both sides or has ended on both. -/
inductive Settled (clock : Clock) (here : Option Binary64) (there : Option Int) : Prop where
  | counts (issued : Clock) (seconds : Nat) (positive : 0 < seconds) (inStep : issued.InStep clock)
      (isHere : here = some (issued.seconds.add (.ofInt seconds)))
      (isThere : there = some (issued.wall + seconds * microsecondsPerSecond))
      (before : clock.reading < issued.reading + seconds * 1000)
      (ahead : (issued.seconds.add (.ofInt seconds)).atMost clock.seconds = false)
  | ended (notHere : ∀ deadline ∈ here, deadline.atMost clock.seconds = true)
      (notThere : ∀ deadline ∈ there, deadline < clock.wall)

theorem settled (keeps : KeepsAlike clock here there) (away : there ≠ some clock.wall) :
    Settled clock here there := by
  cases keeps with
  | ended notHere notThere => exact .ended notHere notThere
  | registered issued seconds positive inStep isHere isThere =>
      have elsewhere : issued.wall + seconds * microsecondsPerSecond ≠ clock.wall :=
        fun same => away (isThere.trans (congrArg some same))
      unfold microsecondsPerSecond at elsewhere
      have together := inStep
      unfold Clock.InStep at together
      rcases Int.lt_trichotomy clock.reading (issued.reading + seconds * 1000) with
        before | same | after
      · exact .counts issued seconds positive inStep isHere isThere before
          (Clock.atMost_add_of_lt positive before)
      · exact absurd (show _ = _ by omega) elsewhere
      · refine .ended ?_ ?_
        · rintro deadline found
          rw [isHere, Option.mem_some_iff] at found
          exact found ▸ Clock.atMost_add_of_gt positive after
        · rintro deadline found
          rw [isThere, Option.mem_some_iff] at found
          unfold microsecondsPerSecond at found
          omega

/-- Time passes alike for both. -/
theorem later (keeps : KeepsAlike clock here there) {after : Clock} (inStep : clock.InStep after)
    (ticked : clock.ticks ≤ after.ticks) (dated : clock.wall ≤ after.wall) :
    KeepsAlike after here there := by
  cases keeps with
  | registered issued seconds positive together isHere isThere =>
      exact .registered issued seconds positive (together.trans inStep) isHere isThere
  | ended notHere notThere =>
      refine .ended (fun deadline found => ?_) fun deadline found => ?_
      · exact Binary64.atMost_trans (notHere deadline found) (Clock.atMost_seconds ticked)
      · exact Int.lt_of_lt_of_le (notThere deadline found) dated

end KeepsAlike

/-- Whether a memory store and a key server keep the same entries. -/
structure TablesAlign (clock : Clock) (store : MemoryStore) (server : KeyServer) : Prop where
  distinct : store.entries.keys.Nodup
  serverDistinct : server.entries.keys.Nodup
  same : ∀ key, KeepsAlike clock (store.entries.find? key) (server.entries.find? key)

/-- Whether the first store is in memory, the second on a server, and both hold the same entries. -/
def Aligned (clock : Clock) : Store → Store → Prop
  | .memory store, .remote server => TablesAlign clock store server
  | _, _ => False

/-- Whether a key has its deadline just now by the wall clock. -/
def EndsNow (store : Store) (clock : Clock) (key : Text) : Prop :=
  store.find? key = some (.wall clock.wall)

/-- The deadlines of all entries that a store keeps. -/
def deadlines : Store → List Deadline
  | .memory store => store.entries.map (.ticking ·.2)
  | .remote server => server.entries.map (.wall ·.2)

variable {clock : Clock}

theorem endsNow_register_of_ne (store : Store) {later : Clock} {key written : Text}
    (differs : key ≠ written) (seconds : Int) :
    (store.register clock written seconds).EndsNow later key ↔ store.EndsNow later key := by
  simp [EndsNow, differs]

theorem endsNow_remote (server : KeyServer) (key : Text) :
    (remote server).EndsNow clock key ↔ server.entries.find? key = some clock.wall := by
  simp [EndsNow, find?]

theorem not_endsNow {store : Store} (away : .wall clock.wall ∉ store.deadlines) (key : Text) :
    ¬store.EndsNow clock key := by
  intro endsNow
  cases store with
  | memory store => simp [EndsNow, find?] at endsNow
  | remote server =>
      have found := Table.mem_of_find? ((endsNow_remote server key).mp endsNow)
      exact away (List.mem_map.mpr ⟨_, found, rfl⟩)

/-- An entry that is registered for some seconds does not end within the first. -/
theorem not_endsNow_register (store : Store) {later : Clock} {seconds : Int} (lasts : 1 ≤ seconds)
    (brief : later.wall < clock.wall + microsecondsPerSecond) (key : Text) :
    ¬(store.register clock key seconds).EndsNow later key := by
  unfold EndsNow
  rw [find?_register, if_pos rfl, Option.some.injEq]
  cases store with
  | memory store => exact nofun
  | remote server =>
      unfold microsecondsPerSecond at brief
      simp only [deadlineAfter, Deadline.wall.injEq, microsecondsPerSecond]
      omega

theorem aligned_empty (clock : Clock) : Aligned clock (.memory .empty) (.remote .empty) where
  distinct := .nil
  serverDistinct := .nil
  same := fun _ => .of_none clock nofun

namespace TablesAlign

variable {store : MemoryStore} {server : KeyServer}

theorem isSome_live_eq (align : TablesAlign clock store server) {key : Text}
    (away : server.entries.find? key ≠ some clock.wall) :
    (store.liveDeadline? clock.seconds key).isSome =
      (server.liveDeadline? clock.wall key).isSome := by
  unfold MemoryStore.liveDeadline? KeyServer.liveDeadline?
  cases (align.same key).settled away with
  | counts issued seconds positive inStep isHere isThere before ahead =>
      have stillThere : clock.wall ≤ issued.wall + seconds * microsecondsPerSecond := by
        unfold Clock.InStep at inStep
        unfold microsecondsPerSecond
        omega
      simp [isHere, isThere, ahead, stillThere, Option.filter_some]
  | ended notHere notThere =>
      have gone : (store.entries.find? key).filter (fun deadline =>
          !deadline.atMost clock.seconds) = none :=
        Option.filter_eq_none_iff.mpr fun deadline found => by simp [notHere deadline found]
      have goneThere : (server.entries.find? key).filter (clock.wall ≤ ·) = none :=
        Option.filter_eq_none_iff.mpr fun deadline found => by
          simpa using notThere deadline found
      rw [gone, goneThere]
      rfl

theorem set (align : TablesAlign clock store server) (key : Text) {seconds : Int}
    (positive : 0 < seconds) :
    TablesAlign clock ⟨store.entries.set key (clock.seconds.add (.ofInt seconds))⟩
      ⟨server.entries.set key (clock.wall + seconds * microsecondsPerSecond)⟩ where
  distinct := Table.nodup_keys_set align.distinct key _
  serverDistinct := Table.nodup_keys_set align.serverDistinct key _
  same := by
    intro other
    rw [Table.find?_set, Table.find?_set]
    split
    · obtain ⟨span, rfl⟩ := Int.eq_ofNat_of_zero_le positive.le
      exact .registered clock span (Int.natCast_pos.mp positive) (.refl clock) rfl rfl
    · exact align.same other

theorem erase (align : TablesAlign clock store server) (key : Text) :
    TablesAlign clock ⟨store.entries.erase key⟩ ⟨server.entries.erase key⟩ where
  distinct := Table.nodup_keys_erase align.distinct key
  serverDistinct := Table.nodup_keys_erase align.serverDistinct key
  same := by
    intro other
    rw [Table.find?_erase, Table.find?_erase]
    split
    · exact .of_none clock nofun
    · exact align.same other

/-- Purging a key that has ended takes nothing away that counts. -/
theorem check (align : TablesAlign clock store server) {key : Text}
    (away : server.entries.find? key ≠ some clock.wall) :
    TablesAlign clock (store.check clock.seconds key).2 server where
  distinct := MemoryStore.nodup_keys_check align.distinct _ key
  serverDistinct := align.serverDistinct
  same := by
    intro other
    rw [MemoryStore.find?_check]
    split
    · next purged =>
        obtain ⟨rfl, dead⟩ := purged
        refine .of_none clock fun deadline found => Int.not_le.mp fun ahead => ?_
        have live : server.liveDeadline? clock.wall other = some deadline :=
          (KeyServer.liveDeadline?_eq_some_iff _ _ _ _).mpr ⟨found, ahead⟩
        have sameSide := align.isSome_live_eq away
        rw [dead, live] at sameSide
        cases sameSide
    · exact align.same other

/-- Clearing the keys of a start by one look, and by a scan and a removal for each key found. -/
theorem cleared (align : TablesAlign clock store server) (start : Text) :
    TablesAlign clock (store.cleared clock.seconds start)
      (server.cleared clock.wall start).server where
  distinct := MemoryStore.nodup_keys_cleared align.distinct _ start
  serverDistinct := KeyServer.nodup_keys_sweep _ _ _ align.serverDistinct
  same := by
    intro key
    have gone := server.liveDeadline?_cleared (Int.le_refl clock.wall) start key
    rw [MemoryStore.find?_cleared]
    split
    · next begins =>
        rw [if_pos begins] at gone
        refine .of_none clock fun deadline found => Int.not_le.mp fun ahead => ?_
        rw [(KeyServer.liveDeadline?_eq_some_iff _ _ _ _).mpr ⟨found, ahead⟩] at gone
        cases gone
    · next apart =>
        have kept : (server.cleared clock.wall start).server.entries.find? key =
            server.entries.find? key := by
          rw [KeyServer.cleared, KeyServer.find?_sweep, KeyServer.attempted_never, if_neg]
          rintro ⟨found, -⟩
          have fits := KeyServer.matchesKey_of_mem_scan found
          rw [Pattern.matchesKey_startingWith, List.isPrefixOf_iff_prefix] at fits
          exact apart fits
        rw [kept]
        exact align.same key

/-- What is cleared is counted alike. -/
theorem count_eq (align : TablesAlign clock store server) (start : Text)
    (away : ∀ key, server.entries.find? key ≠ some clock.wall) :
    (store.keysFrom start).countP (fun key => (store.liveDeadline? clock.seconds key).isSome) =
      (server.cleared clock.wall start).removed := by
  have scanDistinct := KeyServer.nodup_scan align.serverDistinct clock.wall
    (Pattern.startingWith start)
  have keysDistinct : (store.keysFrom start).Nodup := align.distinct.filter _
  rw [KeyServer.cleared, KeyServer.removed_sweep _ _ scanDistinct, KeyServer.attempted_never,
    List.countP_eq_length_filter, List.countP_eq_length_filter]
  refine List.Perm.length_eq ((List.perm_ext_iff_of_nodup (keysDistinct.filter _)
    (scanDistinct.filter _)).mpr fun key => ?_)
  rw [List.mem_filter, List.mem_filter, MemoryStore.mem_keysFrom_iff,
    KeyServer.mem_scan_iff align.serverDistinct, align.isSome_live_eq (away key),
    Pattern.matchesKey_startingWith, List.isPrefixOf_iff_prefix, Table.mem_keys_iff]
  constructor
  · rintro ⟨⟨-, begins⟩, live⟩
    exact ⟨⟨live, begins⟩, by simp [live]⟩
  · rintro ⟨⟨live, begins⟩, -⟩
    rw [← align.isSome_live_eq (away key)] at live
    obtain ⟨deadline, found⟩ := Option.isSome_iff_exists.mp live
    refine ⟨⟨⟨deadline, ?_⟩, begins⟩, (align.isSome_live_eq (away key)) ▸ live⟩
    exact ((MemoryStore.liveDeadline?_eq_some_iff _ _ _ _).mp found).1

/-- Whoever has up to 2^39 seconds left on the server has as many milliseconds left in memory. -/
theorem mem_remaining (align : TablesAlign clock store server)
    (away : ∀ key, server.entries.find? key ≠ some clock.wall) {key : Text} {left : Int}
    (shown : (key, left) ∈ server.remaining clock.wall) (brief : left ≤ 2 ^ 39 * 1000) :
    (key, left) ∈ store.remaining clock.seconds := by
  rw [KeyServer.mem_remaining_iff align.serverDistinct] at shown
  obtain ⟨deadline, live, isLeft⟩ := shown
  obtain ⟨found, ahead⟩ := (KeyServer.liveDeadline?_eq_some_iff _ _ _ _).mp live
  rw [MemoryStore.mem_remaining_iff align.distinct]
  cases (align.same key).settled (away key) with
  | ended notHere notThere => exact absurd (notThere deadline found) (Int.not_lt.mpr ahead)
  | counts issued seconds positive inStep isHere isThere before stillAhead =>
      have limited := clock.natAbs_reading_le
      have issuedLimited := issued.natAbs_reading_le
      unfold Clock.InStep at inStep
      rw [isThere, Option.some.injEq] at found
      unfold microsecondsPerSecond at found
      refine ⟨_, (MemoryStore.liveDeadline?_eq_some_iff _ _ _ _).mpr ⟨isHere, stillAhead⟩, ?_⟩
      rw [MemoryStore.millisecondsLeft_add positive (by omega) before]
      omega

/-- Time passes alike for both. -/
theorem later (align : TablesAlign clock store server) {after : Clock}
    (inStep : clock.InStep after) (ticked : clock.ticks ≤ after.ticks)
    (dated : clock.wall ≤ after.wall) : TablesAlign after store server where
  distinct := align.distinct
  serverDistinct := align.serverDistinct
  same := fun key => (align.same key).later inStep ticked dated

end TablesAlign

namespace Aligned

variable {first second : Store}

/-- Aligned stores are a memory store and a server with aligned tables. -/
theorem exists_tables (aligned : Aligned clock first second) :
    ∃ store server, first = .memory store ∧ second = .remote server ∧
      TablesAlign clock store server := by
  cases first with
  | remote server => exact aligned.elim
  | memory store =>
      cases second with
      | memory other => exact aligned.elim
      | remote server => exact ⟨store, server, rfl, rfl, aligned⟩

theorem register (aligned : Aligned clock first second) (key : Text) {seconds : Int}
    (positive : 0 < seconds) :
    Aligned clock (first.register clock key seconds) (second.register clock key seconds) := by
  obtain ⟨store, server, rfl, rfl, align⟩ := aligned.exists_tables
  exact align.set key positive

theorem remove (aligned : Aligned clock first second) (key : Text) :
    Aligned clock (first.remove key) (second.remove key) := by
  obtain ⟨store, server, rfl, rfl, align⟩ := aligned.exists_tables
  exact align.erase key

theorem clear (aligned : Aligned clock first second) (start : Text) :
    Aligned clock (first.clear clock start) (second.clear clock start) := by
  obtain ⟨store, server, rfl, rfl, align⟩ := aligned.exists_tables
  exact align.cleared start

theorem touch (aligned : Aligned clock first second) {key : Text}
    (away : ¬second.EndsNow clock key) :
    Aligned clock (first.touch clock key) (second.touch clock key) := by
  obtain ⟨store, server, rfl, rfl, align⟩ := aligned.exists_tables
  exact align.check (mt (endsNow_remote server key).mpr away)

theorem later (aligned : Aligned clock first second) {after : Clock}
    (inStep : clock.InStep after) (ticked : clock.ticks ≤ after.ticks)
    (dated : clock.wall ≤ after.wall) : Aligned after first second := by
  obtain ⟨store, server, rfl, rfl, align⟩ := aligned.exists_tables
  exact align.later inStep ticked dated

theorem advance (aligned : Aligned clock first second) {milliseconds : Int}
    (forward : 0 ≤ milliseconds) (inStep : clock.InStep (clock.advance milliseconds)) :
    Aligned (clock.advance milliseconds) first second :=
  aligned.later inStep (by simp [Clock.advance]; omega) (by simp [Clock.advance]; omega)

/-- Away from its deadline a key counts in both stores or in none. -/
theorem isSome_live_eq (aligned : Aligned clock first second) {key : Text}
    (away : ¬second.EndsNow clock key) :
    (first.liveDeadline? clock key).isSome = (second.liveDeadline? clock key).isSome := by
  obtain ⟨store, server, rfl, rfl, align⟩ := aligned.exists_tables
  rw [isSome_liveDeadline?_memory, isSome_liveDeadline?_remote]
  exact align.isSome_live_eq (mt (endsNow_remote server key).mpr away)

theorem countFrom_eq (aligned : Aligned clock first second) (start : Text)
    (away : ∀ key, ¬second.EndsNow clock key) :
    first.countFrom clock start = second.countFrom clock start := by
  obtain ⟨store, server, rfl, rfl, align⟩ := aligned.exists_tables
  exact align.count_eq start fun key => mt (endsNow_remote server key).mpr (away key)

end Aligned

end Store

end TokenAuthority
