import TokenAuthority.Proofs.Service.Entries
import TokenAuthority.Proofs.Store.Paging

/-!
What a removal of all tokens of a user leaves and tells.

The key server removes the keys that a scan finds one by one.  Each key is attempted, whatever
became of the ones before, so that exactly those keys stay that cannot be removed.  A removal that
leaves such keys is a failure that tells their number, and so is one whose scan breaks off; any
other one tells how many keys it has removed.  But where a key can be neither removed nor decoded
the removal breaks off, with the keys after it left as they were, and where the user's name cannot
be encoded it does not begin.
-/

namespace TokenAuthority

open Store

/-! ### Keys that cannot be removed -/

namespace World

/-- The keys of a user that count and cannot be removed. -/
def stuckKeys (world : World) (user : Text) : Finset Text :=
  (world.liveKeys user).filter fun key => world.removingFails key = true

/-- Whether those of some keys of a user that can be removed are gone from a store, and nothing
else. -/
def ClearsAmong (before : World) (user : Text) (tried : Finset Text) (after : Store) : Prop :=
  ∀ clock key, after.liveDeadline? clock key =
    if key ∈ tried ∧ key ∉ before.stuckKeys user then none
    else before.store.liveDeadline? clock key

/-- Whether the keys of a user that can be removed are gone from a store, and nothing else. -/
def ClearsRemovable (before : World) (user : Text) (after : Store) : Prop :=
  before.ClearsAmong user (before.liveKeys user) after

/-- Whether each key of a user that cannot be removed can be decoded. -/
def DecodesStuck (world : World) (user : Text) : Prop :=
  ∀ key ∈ world.stuckKeys user, key.isEncodable = true

@[simp]
theorem mem_stuckKeys_iff (world : World) (user key : Text) :
    key ∈ world.stuckKeys user ↔ key ∈ world.liveKeys user ∧ world.removingFails key = true :=
  Finset.mem_filter

end World

namespace KeyServer

/-- The keys that a scan finds for a user. -/
def userScan (server : KeyServer) (world : World) (user : Text) : List Text :=
  server.scan world.clock.wall (Pattern.startingWith (StoreKey.userStart user))

theorem nodup_userScan {server : KeyServer} (distinct : server.entries.keys.Nodup) (world : World)
    (user : Text) : (server.userScan world user).Nodup :=
  nodup_scan distinct _ _

/-- A sweep of keys in a world. -/
def sweepIn (world : World) (server : KeyServer) (keys : List Text) : Sweep :=
  server.sweep world.faults.delete.hits world.clock.wall keys

/-- The keys that a sweep attempts in a world. -/
def attemptedIn (world : World) (keys : List Text) : List Text :=
  attempted world.faults.delete.hits keys

variable {world : World} {server : KeyServer} (isRemote : world.store = .remote server)
  (distinct : server.entries.keys.Nodup) {user : Text}

include isRemote distinct

theorem mem_userScan_iff (user key : Text) :
    key ∈ server.userScan world user ↔ key ∈ world.liveKeys user := by
  unfold userScan
  rw [mem_scan_iff distinct, World.mem_liveKeys_iff, Pattern.matchesKey_startingWith,
    List.isPrefixOf_iff_prefix, isRemote, IsLive, isSome_liveDeadline?_remote]

variable {keys : List Text} (sameKeys : keys.Perm (server.userScan world user))

include sameKeys

theorem mem_iff_of_perm (key : Text) : key ∈ keys ↔ key ∈ world.liveKeys user :=
  sameKeys.mem_iff.trans (mem_userScan_iff isRemote distinct user key)

theorem mem_stuckKeys_iff_of_perm (key : Text) :
    key ∈ world.stuckKeys user ↔ key ∈ keys ∧ world.faults.delete.hits key = true := by
  rw [World.mem_stuckKeys_iff, mem_iff_of_perm isRemote distinct sameKeys]
  rfl

/-- The keys of a user with a property are as many as a scan finds. -/
theorem countP_of_perm (holds : Text → Bool) :
    keys.countP holds = ((world.liveKeys user).filter fun key => holds key = true).card := by
  have found : keys.toFinset = world.liveKeys user := by
    ext key
    rw [List.mem_toFinset, mem_iff_of_perm isRemote distinct sameKeys]
  have eachOnce := (sameKeys.nodup_iff.mpr (nodup_userScan distinct world user)).filter holds
  rw [List.countP_eq_length_filter, ← List.toFinset_card_of_nodup eachOnce, List.toFinset_filter,
    found]

/-- A sweep removes what it attempts and can remove, and nothing else. -/
theorem clearsAmong_sweepIn :
    world.ClearsAmong user (attemptedIn world keys).toFinset
      (.remote (server.sweepIn world keys).server) := by
  intro clock key
  have removes : (key ∈ (attemptedIn world keys).toFinset ∧ key ∉ world.stuckKeys user) ↔
      key ∈ attemptedIn world keys ∧ world.faults.delete.hits key = false := by
    rw [List.mem_toFinset, mem_stuckKeys_iff_of_perm isRemote distinct sameKeys]
    refine and_congr_right fun isAttempted => ?_
    have isKey := (attempted_isPrefix _ keys).subset isAttempted
    simp [isKey]
  simp only [removes, isRemote, liveDeadline?_remote]
  unfold liveDeadline? sweepIn attemptedIn
  rw [find?_sweep]
  split <;> rfl

section Decoded

variable (decodes : world.DecodesStuck user)

include decodes

theorem breaksOff_eq_false_of_mem {key : Text} (isKey : key ∈ keys) :
    breaksOff world.faults.delete.hits key = false := by
  unfold breaksOff
  cases fails : world.faults.delete.hits key with
  | false => rfl
  | true =>
      have stuck := (mem_stuckKeys_iff_of_perm isRemote distinct sameKeys key).mpr ⟨isKey, fails⟩
      rw [decodes key stuck]
      rfl

theorem attemptedIn_eq_self : attemptedIn world keys = keys :=
  attempted_eq_self fun _ isKey =>
    breaksOff_eq_false_of_mem isRemote distinct sameKeys decodes isKey

theorem brokenOff_sweepIn : (server.sweepIn world keys).brokenOff = false := by
  rw [sweepIn, brokenOff_sweep]
  refine List.any_eq_false.mpr fun key isKey => ?_
  rw [breaksOff_eq_false_of_mem isRemote distinct sameKeys decodes isKey]
  exact Bool.false_ne_true

theorem failed_sweepIn : (server.sweepIn world keys).failed = (world.stuckKeys user).card := by
  have all := attemptedIn_eq_self isRemote distinct sameKeys decodes
  unfold attemptedIn at all
  rw [sweepIn, failed_sweep, all, countP_of_perm isRemote distinct sameKeys]
  rfl

/-- If no key is stuck, each of the user's keys is removed and counted. -/
theorem removed_sweepIn (noneStuck : world.stuckKeys user = ∅) :
    (server.sweepIn world keys).removed = (world.liveKeys user).card := by
  have all := attemptedIn_eq_self isRemote distinct sameKeys decodes
  unfold attemptedIn at all
  rw [sweepIn, removed_sweep _ _ (sameKeys.nodup_iff.mpr (nodup_userScan distinct world user)),
    all, countP_of_perm isRemote distinct sameKeys, Finset.filter_true_of_mem]
  intro key isKey
  have notStuck : world.faults.delete.hits key = false := by
    apply Bool.eq_false_iff.mpr
    intro fails
    have stuck : key ∈ world.stuckKeys user := (World.mem_stuckKeys_iff _ _ _).mpr ⟨isKey, fails⟩
    rw [noneStuck] at stuck
    exact Finset.notMem_empty key stuck
  have live : (server.liveDeadline? world.clock.wall key).isSome = true := by
    have counts := ((World.mem_liveKeys_iff _ _ _).mp isKey).1
    rwa [isRemote, IsLive, isSome_liveDeadline?_remote] at counts
  rw [notStuck, live]
  rfl

theorem clearsRemovable_sweepIn :
    world.ClearsRemovable user (.remote (server.sweepIn world keys).server) := by
  have clears := clearsAmong_sweepIn isRemote distinct sameKeys
  have allKeys : (attemptedIn world keys).toFinset = world.liveKeys user := by
    ext key
    rw [attemptedIn_eq_self isRemote distinct sameKeys decodes, List.mem_toFinset,
      mem_iff_of_perm isRemote distinct sameKeys]
  rwa [allKeys] at clears

end Decoded

end KeyServer

/-! ### Runs -/

/-- Whether a failure is a fault on this side that is told in certain words. -/
def Failure.IsInternal (failure : Failure) (message : Text) : Prop :=
  ∃ error : ServiceError, failure = .service error ∧ error.category = .internal ∧
    error.message = message

namespace StoreAccess

open Call

/-- What a removal makes of its sweep, if the scan may have failed after its last key. -/
def conclude (user : Text) (scanFails : Bool) (swept : KeyServer.Sweep) : Call Nat := do
  setStore (.remote swept.server)
  reportSweep user swept.failed
  if swept.brokenOff then throw .undecodable
  else if scanFails then scanFailed user swept.removed
  else if swept.failed = 0 then return swept.removed
  else Call.fail (.revocationIncomplete swept.failed user)

/-- What a removal tells of its sweep. -/
def told (user : Text) (scanFails : Bool) (swept : KeyServer.Sweep) : Except Failure Nat :=
  if swept.brokenOff then .error .undecodable
  else if scanFails then .error (.service .storeUnavailable)
  else if swept.failed = 0 then .ok swept.removed
  else .error (.service (.revocationIncomplete swept.failed user))

theorem runIn_reportSweep (user : Text) (failed : Nat) (world : World) :
    ∃ reports, runIn (reportSweep user failed) world = (.ok (), world.withReports reports) := by
  induction failed generalizing world with
  | zero => exact ⟨world.reports, rfl⟩
  | succ failed inductionHypothesis =>
      obtain ⟨reports, reported⟩ := runIn_reportFailure
        "Could not DEL refresh token during sign-out" [("user_id", .text user)] world
      obtain ⟨later, rest⟩ := inductionHypothesis (world.withReports reports)
      refine ⟨later, ?_⟩
      unfold reportSweep
      rw [runIn_bind_of_ok reported, rest, World.withReports_withReports]

theorem runIn_scanFailed (user : Text) (removed : Nat) (world : World) :
    ∃ reports, runIn (scanFailed user removed : Call Nat) world =
      (.error (.service .storeUnavailable), world.withReports reports) := by
  obtain ⟨reports, reported⟩ := runIn_reportFailure "Could not SCAN refresh tokens in Redis"
    [("user_id", .text user), ("count", .int removed)] world
  refine ⟨reports, ?_⟩
  unfold scanFailed
  rw [runIn_bind_of_ok reported, runIn_fail]

theorem runIn_conclude (user : Text) (scanFails : Bool) (swept : KeyServer.Sweep)
    (world : World) :
    ∃ reports, runIn (conclude user scanFails swept) world =
      (told user scanFails swept,
        { world with store := .remote swept.server }.withReports reports) := by
  obtain ⟨reports, reported⟩ := runIn_reportSweep user swept.failed
    { world with store := .remote swept.server }
  unfold conclude told
  rw [runIn_bind_of_ok (runIn_setStore _ _), runIn_bind_of_ok reported]
  cases swept.brokenOff with
  | true => exact ⟨reports, rfl⟩
  | false =>
      cases scanFails with
      | true =>
          obtain ⟨later, ran⟩ := runIn_scanFailed user swept.removed
            ({ world with store := .remote swept.server }.withReports reports)
          exact ⟨later, ran⟩
      | false =>
          refine ⟨reports, ?_⟩
          simp only [Bool.false_eq_true, if_false]
          split
          · rw [runIn_pure]
          · rw [runIn_fail]

section Remote

variable {user : Text} (userPart : StoreKey.isPart user = true) {world : World}
  {server : KeyServer} (isRemote : world.store = .remote server)

include userPart isRemote

theorem runIn_deleteAll_remote :
    runIn (deleteAll user) world =
      if world.faults.scan then runIn (scanFailed user 0 : Call Nat) world
      else runIn (sweepRemote user (Pattern.startingWith (StoreKey.userStart user)) server)
        world := by
  unfold deleteAll
  rw [runIn_bind_of_ok (runIn_get world)]
  simp only [isRemote, StoreKey.start_of_isPart userPart]
  rw [runIn_bind_of_ok (runIn_ofKey_ok _ _)]
  split <;> rfl

/-- All keys that the scan finds are swept. -/
theorem runIn_deleteAll_of_scanned (begins : world.faults.scan = false)
    (encodable : user.isEncodable = true) :
    runIn (deleteAll user) world =
      runIn (conclude user world.faults.scanEnd
        (server.sweepIn world (server.userScan world user))) world := by
  have pattern : (Pattern.startingWith (StoreKey.userStart user)).isEncodable = true := by
    have taken := (Store.remote server).takes_startingWith user
    exact taken.trans encodable
  rw [runIn_deleteAll_remote userPart isRemote, begins, if_neg Bool.false_ne_true]
  unfold sweepRemote
  rw [runIn_bind_of_ok (runIn_get world), runIn_bind_of_ok (runIn_encode pattern world)]
  rfl

theorem runIn_deleteAll_of_unencodable (begins : world.faults.scan = false)
    (unencodable : user.isEncodable = false) :
    runIn (deleteAll user) world = (.error .unencodable, world) := by
  have pattern : (Pattern.startingWith (StoreKey.userStart user)).isEncodable = false := by
    have taken := (Store.remote server).takes_startingWith user
    exact taken.trans unencodable
  rw [runIn_deleteAll_remote userPart isRemote, begins, if_neg Bool.false_ne_true]
  unfold sweepRemote
  rw [runIn_bind_of_ok (runIn_get world),
    runIn_bind_of_error (runIn_encode_of_unencodable pattern world)]

end Remote

/-- How a removal of all tokens of a user ends: what it tells, and the store that it leaves. -/
inductive EndsRemoval (user : Text) (before : World) : Except Failure Nat → Store → Prop where
  | unscanned {failure : Failure} (breaks : before.faults.scan = true)
      (told : failure.IsInternal "revocation store unavailable") :
      EndsRemoval user before (.error failure) before.store
  | unencodable (begins : before.faults.scan = false) (unencodable : user.isEncodable = false) :
      EndsRemoval user before (.error .unencodable) before.store
  /-- The removal has tried some keys, and then one that can be neither removed nor decoded. -/
  | undecodable {after : Store} (begins : before.faults.scan = false)
      (encodable : user.isEncodable = true) (tried : Finset Text) (last : Text)
      (ofUser : tried ⊆ before.liveKeys user)
      (decodes : ∀ key ∈ tried, key ∈ before.stuckKeys user → key.isEncodable = true)
      (stuck : last ∈ before.stuckKeys user) (unreadable : last.isEncodable = false)
      (clears : before.ClearsAmong user tried after) :
      EndsRemoval user before (.error .undecodable) after
  | unfinished {failure : Failure} {after : Store} (begins : before.faults.scan = false)
      (encodable : user.isEncodable = true) (decodes : before.DecodesStuck user)
      (breaks : before.faults.scanEnd = true) (clears : before.ClearsRemovable user after)
      (told : failure.IsInternal "revocation store unavailable") :
      EndsRemoval user before (.error failure) after
  | incomplete {failure : Failure} {after : Store} (begins : before.faults.scan = false)
      (encodable : user.isEncodable = true) (decodes : before.DecodesStuck user)
      (finishes : before.faults.scanEnd = false) (clears : before.ClearsRemovable user after)
      (stuck : before.stuckKeys user ≠ ∅)
      (told : failure.IsInternal ("failed to revoke " ++ toString (before.stuckKeys user).card ++
        " refresh token(s) for user " ++ user)) :
      EndsRemoval user before (.error failure) after
  | complete {after : Store} (begins : before.faults.scan = false)
      (encodable : user.isEncodable = true) (finishes : before.faults.scanEnd = false)
      (clears : before.ClearsRemovable user after) (none : before.stuckKeys user = ∅) :
      EndsRemoval user before (.ok (before.liveKeys user).card) after

section Ends

variable {user : Text} {before : World} {server : KeyServer}
  (isRemote : before.store = .remote server) (distinct : server.entries.keys.Nodup)
  (begins : before.faults.scan = false) (encodable : user.isEncodable = true) {keys : List Text}
  (sameKeys : keys.Perm (server.userScan before user))

include isRemote distinct begins encodable sameKeys

/-- A sweep that comes to a key that can be neither removed nor decoded breaks off there. -/
theorem endsRemoval_of_brokenOff
    (breaks : keys.any (KeyServer.breaksOff before.faults.delete.hits) = true) :
    EndsRemoval user before
      (told user before.faults.scanEnd (server.sweepIn before keys))
      (.remote (server.sweepIn before keys).server) := by
  obtain ⟨front, last, isAttempted, goesOn, breaksThere⟩ := KeyServer.exists_attempted_eq breaks
  have isKey : ∀ key ∈ front ++ [last], key ∈ keys := fun key membership =>
    (KeyServer.attempted_isPrefix before.faults.delete.hits keys).subset
      (isAttempted ▸ membership)
  obtain ⟨fails, unreadable⟩ := Bool.and_eq_true_iff.mp breaksThere
  have stuck : last ∈ before.stuckKeys user :=
    (KeyServer.mem_stuckKeys_iff_of_perm isRemote distinct sameKeys last).mpr
      ⟨isKey last (by simp), fails⟩
  have brokenOff : (server.sweepIn before keys).brokenOff = true :=
    (KeyServer.brokenOff_sweep _ _ _ _).trans breaks
  have clears := KeyServer.clearsAmong_sweepIn isRemote distinct sameKeys
  rw [told, if_pos brokenOff]
  refine .undecodable begins encodable front.toFinset last ?_ ?_ stuck
    (by simpa using unreadable) ?_
  · intro key membership
    exact (KeyServer.mem_iff_of_perm isRemote distinct sameKeys key).mp
      (isKey key (List.mem_append_left _ (List.mem_toFinset.mp membership)))
  · intro key membership isStuck
    have noBreak := goesOn key (List.mem_toFinset.mp membership)
    unfold KeyServer.breaksOff at noBreak
    have reached := (KeyServer.mem_stuckKeys_iff_of_perm isRemote distinct sameKeys key).mp isStuck
    rw [reached.2] at noBreak
    simpa using noBreak
  · intro clock key
    rw [clears clock key]
    unfold KeyServer.attemptedIn
    rw [isAttempted]
    refine if_congr ?_ rfl rfl
    simp only [List.toFinset_append, Finset.mem_union, List.mem_toFinset, List.mem_singleton]
    constructor
    · rintro ⟨inFront | rfl, notStuck⟩
      · exact ⟨inFront, notStuck⟩
      · exact absurd stuck notStuck
    · rintro ⟨inFront, notStuck⟩
      exact ⟨.inl inFront, notStuck⟩

/-- Any other sweep attempts each of the user's keys. -/
theorem endsRemoval_of_decodes (decodes : before.DecodesStuck user) :
    EndsRemoval user before
      (told user before.faults.scanEnd (server.sweepIn before keys))
      (.remote (server.sweepIn before keys).server) := by
  have clears := KeyServer.clearsRemovable_sweepIn isRemote distinct sameKeys decodes
  rw [told, KeyServer.brokenOff_sweepIn isRemote distinct sameKeys decodes,
    if_neg Bool.false_ne_true]
  cases scanEnd : before.faults.scanEnd with
  | true =>
      exact .unfinished begins encodable decodes scanEnd clears ⟨.storeUnavailable, rfl, rfl, rfl⟩
  | false =>
      rw [if_neg Bool.false_ne_true, KeyServer.failed_sweepIn isRemote distinct sameKeys decodes]
      by_cases noneStuck : before.stuckKeys user = ∅
      · rw [if_pos (by rw [noneStuck, Finset.card_empty]),
          KeyServer.removed_sweepIn isRemote distinct sameKeys decodes noneStuck]
        exact .complete begins encodable scanEnd clears noneStuck
      · rw [if_neg (mt Finset.card_eq_zero.mp noneStuck)]
        exact .incomplete begins encodable decodes scanEnd clears noneStuck
          ⟨.revocationIncomplete (before.stuckKeys user).card user, rfl, rfl, rfl⟩

theorem endsRemoval :
    EndsRemoval user before
      (told user before.faults.scanEnd (server.sweepIn before keys))
      (.remote (server.sweepIn before keys).server) := by
  cases breaks : keys.any (KeyServer.breaksOff before.faults.delete.hits) with
  | true => exact endsRemoval_of_brokenOff isRemote distinct begins encodable sameKeys breaks
  | false =>
      refine endsRemoval_of_decodes isRemote distinct begins encodable sameKeys ?_
      intro key stuck
      obtain ⟨isKey, fails⟩ :=
        (KeyServer.mem_stuckKeys_iff_of_perm isRemote distinct sameKeys key).mp stuck
      have noBreak := List.any_eq_false.mp breaks key isKey
      unfold KeyServer.breaksOff at noBreak
      simpa [fails] using noBreak

end Ends

/-- A removal of all tokens of a user attempts each of the user's keys and tells exactly how it
went, in whatever pages the scan comes, unless it comes to a key that can be neither removed nor
decoded or cannot encode the user's name.  Where no such key is, the pages make no difference. -/
theorem deleteAll_ends {user : Text} (userPart : StoreKey.isPart user = true) {before : World}
    {server : KeyServer} (isRemote : before.store = .remote server)
    (distinct : server.entries.keys.Nodup) :
    (∃ outcome after reports, EndsRemoval user before outcome after ∧
      runIn (deleteAll user) before =
        (outcome, { before with store := after }.withReports reports)) ∧
      (before.faults.scan = false → user.isEncodable = true → ∀ swept,
        KeyServer.SweepsPages before.faults.delete.hits before.clock.wall
            (Pattern.startingWith (StoreKey.userStart user)) server [] swept →
          (∃ outcome after reports, EndsRemoval user before outcome after ∧
            runIn (conclude user before.faults.scanEnd swept) before =
              (outcome, { before with store := after }.withReports reports)) ∧
            (before.DecodesStuck user →
              runIn (conclude user before.faults.scanEnd swept) before =
                runIn (deleteAll user) before)) := by
  have concluded : ∀ keys : List Text, keys.Perm (server.userScan before user) →
      before.faults.scan = false → user.isEncodable = true →
      ∃ outcome after reports, EndsRemoval user before outcome after ∧
        runIn (conclude user before.faults.scanEnd (server.sweepIn before keys)) before =
          (outcome, { before with store := after }.withReports reports) := by
    intro keys sameKeys begins encodable
    obtain ⟨reports, ran⟩ :=
      runIn_conclude user before.faults.scanEnd (server.sweepIn before keys) before
    exact ⟨_, _, reports, endsRemoval isRemote distinct begins encodable sameKeys, ran⟩
  constructor
  · cases scan : before.faults.scan with
    | true =>
        obtain ⟨reports, ran⟩ := runIn_scanFailed user 0 before
        refine ⟨_, _, reports, .unscanned scan ⟨.storeUnavailable, rfl, rfl, rfl⟩, ?_⟩
        rw [runIn_deleteAll_remote userPart isRemote, if_pos scan, ran]
    | false =>
        cases encodable : user.isEncodable with
        | false =>
            refine ⟨_, _, before.reports, .unencodable scan encodable, ?_⟩
            rw [runIn_deleteAll_of_unencodable userPart isRemote scan encodable]
            rfl
        | true =>
            rw [runIn_deleteAll_of_scanned userPart isRemote scan encodable]
            exact concluded _ (List.Perm.refl _) scan encodable
  · intro scan encodable swept pages
    obtain ⟨keys, sameKeys, rfl⟩ := pages.exists_perm distinct
    refine ⟨concluded keys sameKeys scan encodable, fun decodes => ?_⟩
    have sameSweep : server.sweepIn before keys =
        server.sweepIn before (server.userScan before user) :=
      KeyServer.sweep_perm sameKeys (fun _ isKey =>
        KeyServer.breaksOff_eq_false_of_mem isRemote distinct sameKeys decodes isKey) server
    rw [runIn_deleteAll_of_scanned userPart isRemote scan encodable, ← sameSweep]
    rfl

/-- A key server with three live keys and a dead one of a user, and a key of another user.  One of
the live keys, the dead one and the other user's cannot be removed. -/
def crowdedServer : KeyServer where
  entries := [("u:a", 1800000000000000), ("v:a", 1800000000000000), ("u:b", 1800000000000000),
    ("u:c", 1600000000000000), ("u:d", 1700000000000001)]

def crowdedWorld : World :=
  { World.sample with
    store := .remote crowdedServer
    faults := { delete := .forKeys ["u:b", "u:c", "v:a"] } }

/-- The pages of another scan of the user's keys. -/
def crowdedPages : List (List Text) :=
  [["u:d"], ["u:b", "u:a"]]

/-- Two of the three live keys are removed, and one failure is told.  It is the same with pages in
another order. -/
theorem crowdedWorld_deleteAll_ends :
    (StoreKey.isPart "u" = true ∧ crowdedWorld.store = .remote crowdedServer ∧
      crowdedServer.entries.keys.Nodup ∧ crowdedWorld.faults.scan = false ∧
      crowdedWorld.DecodesStuck "u") ∧
    ∃ failure after reports,
      runIn (deleteAll "u") crowdedWorld =
        (.error failure, { crowdedWorld with store := after }.withReports reports) ∧
      failure.IsInternal "failed to revoke 1 refresh token(s) for user u" ∧
      (after.liveDeadline? crowdedWorld.clock "u:a" = none ∧
        after.liveDeadline? crowdedWorld.clock "u:b" = some (.wall 1800000000000000) ∧
        after.liveDeadline? crowdedWorld.clock "u:d" = none ∧
        after.liveDeadline? crowdedWorld.clock "v:a" = some (.wall 1800000000000000)) ∧
      runIn (conclude "u" false (crowdedServer.sweepIn crowdedWorld crowdedPages.flatten))
          crowdedWorld =
        runIn (deleteAll "u") crowdedWorld := by
  have userPart : StoreKey.isPart "u" = true := by decide
  have distinct : crowdedServer.entries.keys.Nodup := by decide
  have live : crowdedWorld.liveKeys "u" = {("u:a" : Text), ("u:b" : Text), ("u:d" : Text)} := by
    decide +kernel
  have stuck : crowdedWorld.stuckKeys "u" = {("u:b" : Text)} := by decide +kernel
  have decodes : crowdedWorld.DecodesStuck "u" := by
    unfold World.DecodesStuck
    rw [stuck]
    decide
  have scanned : crowdedServer.userScan crowdedWorld "u" = (["u:a", "u:b", "u:d"] : List Text) := by
    decide +kernel
  have pages : KeyServer.SweepsPages crowdedWorld.faults.delete.hits crowdedWorld.clock.wall
      (Pattern.startingWith (StoreKey.userStart "u")) crowdedServer []
      (crowdedServer.sweepIn crowdedWorld crowdedPages.flatten) := by
    apply KeyServer.sweepsPages_of_pages distinct (by decide)
    intro key
    unfold KeyServer.userScan at scanned
    rw [scanned]
    simp [crowdedPages]
    tauto
  have isRemote : crowdedWorld.store = .remote crowdedServer := rfl
  obtain ⟨⟨outcome, after, reports, ends, ran⟩, samePages⟩ :=
    deleteAll_ends userPart isRemote distinct
  refine ⟨⟨userPart, isRemote, distinct, rfl, decodes⟩, ?_⟩
  cases ends with
  | unscanned breaks => cases breaks
  | unencodable _ unencodable => cases unencodable
  | undecodable _ _ _ last _ _ isStuck unreadable =>
      rw [decodes last isStuck] at unreadable
      cases unreadable
  | unfinished _ _ _ breaks => cases breaks
  | complete _ _ _ _ noneStuck =>
      rw [stuck] at noneStuck
      exact absurd noneStuck (by decide)
  | incomplete _ _ _ _ clears _ told =>
      rw [stuck] at told
      refine ⟨_, _, reports, ran, told, ?_, (samePages rfl rfl _ pages).2 decodes⟩
      unfold World.ClearsRemovable World.ClearsAmong at clears
      simp only [clears, live, stuck]
      decide +kernel

/-- A removal breaks off at a key that ends in an octet of no character. -/
example :
    let server : KeyServer :=
      ⟨[(StoreKey.userStart "u" ++ [.low 0xff], 1800000000000000), ("u:b", 1800000000000000)]⟩
    let world : World :=
      { World.sample with
        store := .remote server
        faults := { delete := .forKeys [StoreKey.userStart "u" ++ [.low 0xff]] } }
    (runIn (deleteAll "u") world).1 = .error .undecodable ∧
      (runIn (deleteAll "u") world).2.store = .remote server :=
  ⟨rfl, rfl⟩

end StoreAccess

end TokenAuthority
