import TokenAuthority.Proofs.Service.Call
import TokenAuthority.Proofs.Service.StoreView
import TokenAuthority.Service.StoreAccess

/-!
What an access to the revocation store does to the world.

An access to a single key either fails, by an outage or because its key cannot be sent to the
store, which leaves everything but the reports as it was, or it does to the store what
`Store.register` or `Store.remove` says, for either kind of store.
-/

namespace TokenAuthority

theorem Duration.one_le_storeSeconds (microseconds : Int) : 1 ≤ storeSeconds microseconds :=
  Int.le_max_left 1 _

namespace World

def registeringFails (world : World) (key : Text) : Bool :=
  match world.store with
  | .memory _ => world.faults.set.isAny
  | .remote _ => world.faults.set.hits key

/-- Why a key cannot be registered, if it cannot. -/
def registeringFailure? (world : World) (key : Text) : Option Failure :=
  if world.registeringFails key then some (.service .storeUnavailable)
  else if world.store.takes key then none
  else some .unencodable

def removingFails (world : World) (key : Text) : Bool :=
  world.faults.delete.hits key

/-- The world after a token was registered, with what happened meanwhile. -/
def registering (world : World) (user token : Text) (lifetime : Int) : World :=
  StoreAccess.disturb { world with
    store := world.store.register world.clock (StoreKey.join user token)
      (Duration.storeSeconds lifetime) }

def removing (world : World) (user token : Text) : World :=
  { world with store := world.store.remove (StoreKey.join user token) }

/-- The world after all tokens of a user were removed. -/
def clearing (world : World) (user : Text) : World :=
  { world with store := world.store.clear world.clock (StoreKey.userStart user) }

def touching (world : World) (user token : Text) : World :=
  { world with store := world.store.touch world.clock (StoreKey.join user token) }

/-- What no access to the store changes: what goes wrong and what happens meanwhile, the
identifiers and the kind of the store. -/
structure Frame (before after : World) : Prop where
  faults : after.faults = before.faults
  duringPut : after.duringPut = before.duringPut
  ids : after.ids = before.ids
  tokensDrawn : after.tokensDrawn = before.tokensDrawn
  inMemory : after.store.InMemory ↔ before.store.InMemory

theorem Frame.refl (world : World) : Frame world world :=
  ⟨rfl, rfl, rfl, rfl, Iff.rfl⟩

theorem Frame.trans {first second third : World} (left : Frame first second)
    (right : Frame second third) : Frame first third :=
  ⟨right.faults.trans left.faults, right.duringPut.trans left.duringPut,
    right.ids.trans left.ids, right.tokensDrawn.trans left.tokensDrawn,
    right.inMemory.trans left.inMemory⟩

/-- A key is not registered for want of the store, or of an encoding. -/
theorem eq_of_registeringFailure? {world : World} {key : Text} {failure : Failure}
    (fails : world.registeringFailure? key = some failure) :
    failure = .service .storeUnavailable ∨ failure = .unencodable := by
  unfold registeringFailure? at fails
  split at fails
  · exact .inl (Option.some.inj fails).symm
  · split at fails
    · cases fails
    · exact .inr (Option.some.inj fails).symm

theorem registeringFailure?_eq_unencodable_iff {world : World} {key : Text} :
    world.registeringFailure? key = some .unencodable ↔
      world.registeringFails key = false ∧ world.store.takes key = false := by
  unfold registeringFailure?
  cases world.registeringFails key <;> cases world.store.takes key <;> simp

theorem registeringFailure?_eq_none_iff {world : World} {key : Text} :
    world.registeringFailure? key = none ↔
      world.registeringFails key = false ∧ world.store.takes key = true := by
  unfold registeringFailure?
  cases world.registeringFails key <;> cases world.store.takes key <;> simp

variable (world : World) (reports : List Log.Event) (user token : Text)

theorem frame_registering (lifetime : Int) : Frame world (world.registering user token lifetime) :=
  ⟨rfl, rfl, rfl, rfl, Store.inMemory_register _ _ _ _⟩

theorem frame_removing : Frame world (world.removing user token) :=
  ⟨rfl, rfl, rfl, rfl, Store.inMemory_remove _ _⟩

theorem frame_clearing : Frame world (world.clearing user) :=
  ⟨rfl, rfl, rfl, rfl, Store.inMemory_clear _ _ _⟩

@[simp]
theorem clock_removing : (world.removing user token).clock = world.clock := rfl

@[simp]
theorem removing_withReports :
    (world.withReports reports).removing user token =
      (world.removing user token).withReports reports := rfl

@[simp]
theorem removingFails_withReports (key : Text) :
    (world.withReports reports).removingFails key = world.removingFails key := rfl

end World

namespace StoreAccess

open Call

theorem runIn_setStore (store : Store) (world : World) :
    runIn (setStore store) world = (.ok (), { world with store }) := rfl

theorem runIn_reportFailure (message : String) (about : List (Text × Json)) (world : World) :
    ∃ reports, runIn (reportFailure message about) world = (.ok (), world.withReports reports) :=
  ⟨_, rfl⟩

theorem runIn_encode {text : Text} (encodable : text.isEncodable = true) (world : World) :
    runIn (encode text) world = (.ok (), world) := by
  rw [encode, if_pos encodable]
  rfl

theorem runIn_encode_of_unencodable {text : Text} (unencodable : text.isEncodable = false)
    (world : World) : runIn (encode text) world = (.error .unencodable, world) := by
  rw [encode, if_neg (by simp [unencodable])]
  rfl

variable {user token : Text}

theorem runIn_put_of_fails (userPart : StoreKey.isPart user = true)
    (tokenPart : StoreKey.isPart token = true) (lifetime : Int) {world : World} {failure : Failure}
    (fails : world.registeringFailure? (StoreKey.join user token) = some failure) :
    ∃ reports, runIn (put user token lifetime) world =
      (.error failure, world.withReports reports) := by
  unfold World.registeringFailure? World.registeringFails at fails
  cases kind : world.store with
  | memory store =>
      simp only [kind, Store.takes, if_true] at fails
      split at fails
      · next outage =>
          cases fails
          refine ⟨world.reports, ?_⟩
          simp only [put, runIn_bind, runIn_get, kind, if_pos outage, runIn_fail]
          rfl
      · cases fails
  | remote server =>
      simp only [kind, Store.takes] at fails
      split at fails
      · next outage =>
          cases fails
          obtain ⟨reports, reported⟩ := runIn_reportFailure
            "Could not SET refresh token in Redis" (subject user token) world
          refine ⟨reports, ?_⟩
          simp only [put, runIn_bind, runIn_get, kind, StoreKey.make_of_isPart userPart tokenPart,
            runIn_ofKey_ok, if_pos outage, reported, runIn_fail]
      · next works =>
          split at fails
          · cases fails
          · next unencodable =>
              cases fails
              refine ⟨world.reports, ?_⟩
              simp only [put, runIn_bind, runIn_get, kind,
                StoreKey.make_of_isPart userPart tokenPart, runIn_ofKey_ok, if_neg works,
                runIn_encode_of_unencodable (Bool.eq_false_iff.mpr unencodable)]
              rfl

/-- Registering gives the key its deadline, and lets happen what happens meanwhile. -/
theorem runIn_put (userPart : StoreKey.isPart user = true)
    (tokenPart : StoreKey.isPart token = true) (lifetime : Int) {world : World}
    (works : world.registeringFailure? (StoreKey.join user token) = none) :
    runIn (put user token lifetime) world = (.ok (), world.registering user token lifetime) := by
  obtain ⟨noOutage, taken⟩ := World.registeringFailure?_eq_none_iff.mp works
  unfold World.registeringFails at noOutage
  cases kind : world.store with
  | memory store =>
      rw [kind] at noOutage
      simp only [put, runIn_bind, runIn_get, kind, noOutage, Bool.false_eq_true, if_false,
        MemoryStore.put_eq userPart tokenPart, runIn_ofKey_ok, runIn_setStore, runIn_modify,
        World.registering]
      rfl
  | remote server =>
      rw [kind] at noOutage taken
      simp only [put, runIn_bind, runIn_get, kind, StoreKey.make_of_isPart userPart tokenPart,
        runIn_ofKey_ok, noOutage, Bool.false_eq_true, if_false, runIn_encode taken,
        runIn_setStore, runIn_modify, World.registering]
      rfl

theorem runIn_delete_of_fails (userPart : StoreKey.isPart user = true)
    (tokenPart : StoreKey.isPart token = true) {world : World}
    (fails : world.removingFails (StoreKey.join user token) = true) :
    ∃ reports, runIn (delete user token) world =
      (.error (.service .storeUnavailable), world.withReports reports) := by
  unfold World.removingFails at fails
  cases kind : world.store with
  | memory store =>
      refine ⟨world.reports, ?_⟩
      simp only [delete, runIn_bind, runIn_get, kind, if_pos fails, runIn_fail]
      rfl
  | remote server =>
      obtain ⟨reports, reported⟩ := runIn_reportFailure "Could not DEL refresh token in Redis"
        (subject user token) world
      refine ⟨reports, ?_⟩
      simp only [delete, runIn_bind, runIn_get, kind, StoreKey.make_of_isPart userPart tokenPart,
        runIn_ofKey_ok, if_pos fails, reported, runIn_fail]

theorem runIn_delete_of_not_takes (userPart : StoreKey.isPart user = true)
    (tokenPart : StoreKey.isPart token = true) {world : World}
    (works : world.removingFails (StoreKey.join user token) = false)
    (refuses : world.store.takes (StoreKey.join user token) = false) :
    runIn (delete user token) world = (.error .unencodable, world) := by
  unfold World.removingFails at works
  cases kind : world.store with
  | memory store =>
      rw [kind] at refuses
      cases refuses
  | remote server =>
      rw [kind] at refuses
      simp only [delete, runIn_bind, runIn_get, kind, StoreKey.make_of_isPart userPart tokenPart,
        runIn_ofKey_ok, works, Bool.false_eq_true, if_false, runIn_encode_of_unencodable refuses]

/-- Removing takes the key away, and tells one if it counted and none otherwise. -/
theorem runIn_delete (userPart : StoreKey.isPart user = true)
    (tokenPart : StoreKey.isPart token = true) {world : World}
    (works : world.removingFails (StoreKey.join user token) = false)
    (taken : world.store.takes (StoreKey.join user token) = true) :
    runIn (delete user token) world =
      (.ok (if world.IsLive user token then 1 else 0), world.removing user token) := by
  unfold World.removingFails at works
  cases kind : world.store with
  | memory store =>
      simp only [delete, runIn_bind, runIn_get, kind, works, Bool.false_eq_true, if_false,
        MemoryStore.delete_eq userPart tokenPart, runIn_ofKey_ok, runIn_setStore, runIn_pure,
        World.IsLive, Store.IsLive, World.removing, Store.isSome_liveDeadline?_memory]
      rfl
  | remote server =>
      rw [kind] at taken
      simp only [delete, runIn_bind, runIn_get, kind, StoreKey.make_of_isPart userPart tokenPart,
        runIn_ofKey_ok, works, Bool.false_eq_true, if_false, runIn_encode taken, runIn_setStore,
        runIn_pure, World.IsLive, Store.IsLive, World.removing, Store.isSome_liveDeadline?_remote]
      rfl

/-- Without an outage all tokens of the user go, in memory as well as by a sweep. -/
theorem runIn_deleteAll (userPart : StoreKey.isPart user = true) {world : World}
    (sound : world.faults = {}) (taken : world.store.takes user = true) :
    runIn (deleteAll user) world =
      (.ok (world.store.countFrom world.clock (StoreKey.userStart user)), world.clearing user) := by
  unfold deleteAll
  rw [runIn_bind_of_ok (runIn_get world)]
  unfold World.clearing
  cases kind : world.store with
  | memory store =>
      simp only [MemoryStore.deleteAll_eq userPart]
      rfl
  | remote server =>
      have swept : server.sweep world.faults.delete.hits world.clock.wall
          (server.scan world.clock.wall (Pattern.startingWith (StoreKey.userStart user))) =
          server.cleared world.clock.wall (StoreKey.userStart user) := by
        rw [sound]
        rfl
      have encodable : (Pattern.startingWith (StoreKey.userStart user)).isEncodable = true := by
        rwa [kind, ← Store.takes_startingWith] at taken
      have noScanFault : world.faults.scan = false ∧ world.faults.scanEnd = false := by simp [sound]
      simp only [StoreKey.start_of_isPart userPart]
      rw [runIn_bind_of_ok (runIn_ofKey_ok _ _), noScanFault.1, if_neg Bool.false_ne_true]
      unfold sweepRemote
      rw [runIn_bind_of_ok (runIn_get world), runIn_bind_of_ok (runIn_encode encodable world)]
      simp only [noScanFault.2, Bool.false_eq_true, if_false, swept, KeyServer.failed_cleared,
        KeyServer.brokenOff_cleared, reportSweep]
      rfl

/-- Asking for a token tells whether it counts. -/
theorem runIn_contains (userPart : StoreKey.isPart user = true)
    (tokenPart : StoreKey.isPart token = true) {world : World} (sound : world.faults = {})
    (taken : world.store.takes (StoreKey.join user token) = true) :
    runIn (contains user token) world =
      (.ok (world.store.liveDeadline? world.clock (StoreKey.join user token)).isSome,
        world.touching user token) := by
  have noFault : world.faults.contains = false := by simp [sound]
  cases kind : world.store with
  | memory store =>
      simp only [contains, runIn_bind, runIn_get, kind, MemoryStore.contains_eq userPart tokenPart,
        runIn_ofKey_ok, runIn_setStore, runIn_pure, World.touching,
        Store.isSome_liveDeadline?_memory]
      rfl
  | remote server =>
      rw [kind] at taken
      have untouched : { world with store := .remote server } = world := by rw [← kind]
      simp only [contains, runIn_bind, runIn_get, kind, StoreKey.make_of_isPart userPart tokenPart,
        runIn_ofKey_ok, noFault, Bool.false_eq_true, if_false, runIn_encode taken, runIn_pure,
        World.touching, Store.touch, untouched, Store.isSome_liveDeadline?_remote]
      rfl

section Unencodable

variable {world : World} (sound : world.faults = {})

include sound

/-- Where a text cannot be sent to the store, an access fails and nothing changes. -/
theorem runIn_contains_of_not_takes (userPart : StoreKey.isPart user = true)
    (tokenPart : StoreKey.isPart token = true)
    (refuses : world.store.takes (StoreKey.join user token) = false) :
    runIn (contains user token) world = (.error .unencodable, world) := by
  have noFault : world.faults.contains = false := by simp [sound]
  cases kind : world.store with
  | memory store =>
      rw [kind] at refuses
      cases refuses
  | remote server =>
      rw [kind] at refuses
      simp only [contains, runIn_bind, runIn_get, kind, StoreKey.make_of_isPart userPart tokenPart,
        runIn_ofKey_ok, noFault, Bool.false_eq_true, if_false, runIn_encode_of_unencodable refuses]

theorem runIn_deleteAll_of_not_takes (userPart : StoreKey.isPart user = true)
    (refuses : world.store.takes user = false) :
    runIn (deleteAll user) world = (.error .unencodable, world) := by
  have noFault : world.faults.scan = false := by simp [sound]
  unfold deleteAll
  rw [runIn_bind_of_ok (runIn_get world)]
  cases kind : world.store with
  | memory store =>
      rw [kind] at refuses
      cases refuses
  | remote server =>
      have unencodable :
          (Pattern.startingWith (StoreKey.userStart user)).isEncodable = false := by
        rwa [kind, ← Store.takes_startingWith] at refuses
      simp only [StoreKey.start_of_isPart userPart]
      rw [runIn_bind_of_ok (runIn_ofKey_ok _ _), noFault, if_neg Bool.false_ne_true]
      unfold sweepRemote
      rw [runIn_bind_of_ok (runIn_get world),
        runIn_bind_of_error (runIn_encode_of_unencodable unencodable world)]

end Unencodable

section Refused

variable {error : StoreKey.PartError} {world : World} (sound : world.faults = {})

include sound

/-- Texts of which no key is made are refused by either kind of store, and nothing changes. -/
theorem runIn_put_of_refused (refused : StoreKey.make user token = .error error) (lifetime : Int) :
    runIn (put user token lifetime) world = (.error (.keyPart error), world) := by
  have noFault : world.faults.set.isAny = false := by simp [sound, Outage.isAny]
  cases kind : world.store with
  | memory store =>
      have refusedHere : store.put world.clock.seconds user token lifetime = .error error := by
        unfold MemoryStore.put
        rw [refused]
        rfl
      simp only [put, runIn_bind, runIn_get, kind, noFault, Bool.false_eq_true, if_false,
        refusedHere, runIn_ofKey_error]
  | remote server =>
      simp only [put, runIn_bind, runIn_get, kind, refused, runIn_ofKey_error]

theorem runIn_delete_of_refused (refused : StoreKey.make user token = .error error) :
    runIn (delete user token) world = (.error (.keyPart error), world) := by
  have noFault : world.faults.delete.hits (StoreKey.join user token) = false := by
    simp [sound, Outage.hits]
  cases kind : world.store with
  | memory store =>
      have refusedHere : store.delete world.clock.seconds user token = .error error := by
        unfold MemoryStore.delete
        rw [refused]
        rfl
      simp only [delete, runIn_bind, runIn_get, kind, noFault, Bool.false_eq_true, if_false,
        refusedHere, runIn_ofKey_error]
  | remote server =>
      simp only [delete, runIn_bind, runIn_get, kind, refused, runIn_ofKey_error]

omit sound in
theorem runIn_contains_of_refused (refused : StoreKey.make user token = .error error) :
    runIn (contains user token) world = (.error (.keyPart error), world) := by
  cases kind : world.store with
  | memory store =>
      have refusedHere : store.contains world.clock.seconds user token = .error error := by
        unfold MemoryStore.contains
        rw [refused]
        rfl
      simp only [contains, runIn_bind, runIn_get, kind, refusedHere, runIn_ofKey_error]
  | remote server =>
      simp only [contains, runIn_bind, runIn_get, kind, refused, runIn_ofKey_error]

omit sound in
theorem runIn_deleteAll_of_refused (refused : StoreKey.start user = .error error) :
    runIn (deleteAll user) world = (.error (.keyPart error), world) := by
  cases kind : world.store with
  | memory store =>
      have refusedHere : store.deleteAll world.clock.seconds user = .error error := by
        unfold MemoryStore.deleteAll
        rw [refused]
        rfl
      simp only [deleteAll, runIn_bind, runIn_get, kind, refusedHere, runIn_ofKey_error]
  | remote server =>
      simp only [deleteAll, runIn_bind, runIn_get, kind, refused, runIn_ofKey_error]

end Refused

/-- Without an outage only a key that cannot be sent to the store is not registered. -/
theorem registeringFailure?_of_no_faults {world : World} (sound : world.faults = {}) (key : Text) :
    world.registeringFailure? key = if world.store.takes key then none else some .unencodable := by
  have noOutage : world.registeringFails key = false := by
    unfold World.registeringFails
    rw [sound]
    split <;> rfl
  unfold World.registeringFailure?
  rw [noOutage, if_neg Bool.false_ne_true]

theorem registeringFailure?_eq_none {world : World} (sound : world.faults = {}) {key : Text}
    (taken : world.store.takes key = true) : world.registeringFailure? key = none := by
  rw [registeringFailure?_of_no_faults sound, if_pos taken]

theorem removingFails_of_no_faults {world : World} (sound : world.faults = {}) (key : Text) :
    world.removingFails key = false := by
  unfold World.removingFails
  rw [sound]
  rfl

end StoreAccess

end TokenAuthority
