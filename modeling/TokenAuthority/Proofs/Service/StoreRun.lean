import TokenAuthority.Proofs.Service.Run

/-!
Runs of a revocation store.

A run is a list of requests in the names of users, with time that passes between them.  Without
outages the world around the store plays no part in it: `Store.serve` tells from the store and the
clocks alone what a request is answered and which store it leaves behind, for either kind of store.
-/

namespace TokenAuthority

namespace StoreAccess

open Call

/-- What can be asked of a store in the name of a user. -/
inductive Request where
  | put (token : Text) (lifetime : Int)
  | delete (token : Text)
  | deleteAll
  | contains (token : Text)
  | expire (token : Text)

/-- What a request is answered. -/
inductive Receipt where
  | done (outcome : Except Failure Unit)
  | count (outcome : Except Failure Nat)
  | found (outcome : Except Failure Bool)

inductive Event where
  | request (user : Text) (request : Request)
  | advance (milliseconds : Nat)

def ask (user : Text) (request : Request) (world : World) : Receipt × World :=
  match request with
  | .put token lifetime =>
      (runIn (put user token lifetime) (world.disturbed 0 [])).map .done id
  | .delete token => (runIn (delete user token) world).map .count id
  | .deleteAll => (runIn (deleteAll user) world).map .count id
  | .contains token => (runIn (contains user token) world).map .found id
  | .expire token => (runIn (expire user token) world).map .done id

def perform (event : Event) (world : World) : Receipt × World :=
  match event with
  | .request user request => ask user request world
  | .advance milliseconds => (.done (.ok ()), world.advance milliseconds)

def worldAfter (start : World) (events : List Event) : World :=
  events.foldl (fun world event => (perform event world).2) start

/-- The events of a run with what each of them was answered. -/
def replies : World → List Event → List (Event × Receipt)
  | _, [] => []
  | world, event :: rest =>
      (event, (perform event world).1) :: replies (perform event world).2 rest

end StoreAccess

namespace Store

open StoreAccess

/-- The store in which the entry of a key ends now, if there is one; a key server has no such
operation. -/
def expire (store : Store) (clock : Clock) (key : Text) : Store :=
  match store with
  | .memory store =>
      if (store.entries.find? key).isSome then .memory ⟨store.entries.set key clock.seconds⟩
      else .memory store
  | .remote server => .remote server

theorem expire_memory (store : MemoryStore) (clock : Clock) (key : Text) :
    (memory store).expire clock key =
      if (store.entries.find? key).isSome then memory ⟨store.entries.set key clock.seconds⟩
      else memory store :=
  rfl

/-- What a request on one token is answered, and the store after it, unless the two texts make no
key or the store does not take it. -/
def serveKey {α : Type} (store : Store) (reply : Except Failure α → Receipt) (user token : Text)
    (found : Text → α × Store) : Receipt × Store :=
  match StoreKey.make user token with
  | .ok key =>
      if store.takes key then (reply (.ok (found key).1), (found key).2)
      else (reply (.error .unencodable), store)
  | .error error => (reply (.error (.keyPart error)), store)

section ServeKey

variable {α : Type} {store : Store} {reply : Except Failure α → Receipt} {user token : Text}
  {found : Text → α × Store}

theorem serveKey_of_takes (userPart : StoreKey.isPart user = true)
    (tokenPart : StoreKey.isPart token = true)
    (taken : store.takes (StoreKey.join user token) = true) :
    store.serveKey reply user token found =
      (reply (.ok (found (StoreKey.join user token)).1),
        (found (StoreKey.join user token)).2) := by
  simp only [serveKey, StoreKey.make_of_isPart userPart tokenPart, taken, if_true]

theorem serveKey_of_not_takes (userPart : StoreKey.isPart user = true)
    (tokenPart : StoreKey.isPart token = true)
    (refuses : store.takes (StoreKey.join user token) = false) :
    store.serveKey reply user token found = (reply (.error .unencodable), store) := by
  simp only [serveKey, StoreKey.make_of_isPart userPart tokenPart, refuses, Bool.false_eq_true,
    if_false]

theorem serveKey_of_refused {error : StoreKey.PartError}
    (refused : StoreKey.make user token = .error error) :
    store.serveKey reply user token found = (reply (.error (.keyPart error)), store) := by
  simp only [serveKey, refused]

end ServeKey

/-- What a request is answered, and the store after it. -/
def serve (store : Store) (clock : Clock) (user : Text) (request : Request) : Receipt × Store :=
  match request with
  | .put token lifetime =>
      store.serveKey .done user token fun key =>
        ((), store.register clock key (Duration.storeSeconds lifetime))
  | .delete token =>
      store.serveKey .count user token fun key =>
        (if (store.liveDeadline? clock key).isSome then 1 else 0, store.remove key)
  | .deleteAll =>
      match StoreKey.start user with
      | .ok start =>
          if store.takes user then
            (.count (.ok (store.countFrom clock start)), store.clear clock start)
          else (.count (.error .unencodable), store)
      | .error error => (.count (.error (.keyPart error)), store)
  | .contains token =>
      store.serveKey .found user token fun key =>
        ((store.liveDeadline? clock key).isSome, store.touch clock key)
  | .expire token =>
      match store with
      | .memory _ => store.serveKey .done user token fun key => ((), store.expire clock key)
      | .remote _ => (.done (.ok ()), store)

end Store

namespace StoreAccess

open Call

/-- Whether the answer to a request and the world after it are what the store serves, with nothing
else changed that a later request depends on. -/
structure Serves (user : Text) (request : Request) (world : World) (reply : Receipt)
    (after : World) : Prop where
  served : world.store.serve world.clock user request = (reply, after.store)
  clock : after.clock = world.clock
  faults : after.faults = world.faults

section

variable {world : World} (sound : world.faults = {})

include sound

theorem serves_put (user token : Text) (lifetime : Int) :
    ∃ reply after, ask user (.put token lifetime) world = (reply, after) ∧
      Serves user (.put token lifetime) world reply after := by
  have stillSound : (world.disturbed 0 []).faults = {} := sound
  rcases StoreKey.isPart_or_make_eq_error user token with ⟨userPart, tokenPart⟩ | ⟨error, refused⟩
  · cases taken : world.store.takes (StoreKey.join user token) with
    | true =>
        have ran := runIn_put userPart tokenPart lifetime
          (registeringFailure?_eq_none stillSound taken)
        refine ⟨_, _, congrArg (Prod.map Receipt.done id) ran, ?_,
          Clock.advance_zero world.clock, rfl⟩
        exact Store.serveKey_of_takes userPart tokenPart taken
    | false =>
        have fails : (world.disturbed 0 []).registeringFailure? (StoreKey.join user token) =
            some .unencodable :=
          (registeringFailure?_of_no_faults stillSound _).trans (if_neg (ne_true_of_eq_false taken))
        obtain ⟨reports, ran⟩ := runIn_put_of_fails userPart tokenPart lifetime fails
        refine ⟨_, _, congrArg (Prod.map Receipt.done id) ran, ?_, rfl, rfl⟩
        exact Store.serveKey_of_not_takes userPart tokenPart taken
  · have ran := runIn_put_of_refused stillSound refused lifetime
    refine ⟨_, _, congrArg (Prod.map Receipt.done id) ran, ?_, rfl, rfl⟩
    exact Store.serveKey_of_refused refused

theorem serves_delete (user token : Text) :
    ∃ reply after, ask user (.delete token) world = (reply, after) ∧
      Serves user (.delete token) world reply after := by
  rcases StoreKey.isPart_or_make_eq_error user token with ⟨userPart, tokenPart⟩ | ⟨error, refused⟩
  · have works := removingFails_of_no_faults sound (StoreKey.join user token)
    cases taken : world.store.takes (StoreKey.join user token) with
    | true =>
        have ran := runIn_delete userPart tokenPart works taken
        refine ⟨_, _, congrArg (Prod.map Receipt.count id) ran, ?_, rfl, rfl⟩
        exact Store.serveKey_of_takes userPart tokenPart taken
    | false =>
        have ran := runIn_delete_of_not_takes userPart tokenPart works taken
        refine ⟨_, _, congrArg (Prod.map Receipt.count id) ran, ?_, rfl, rfl⟩
        exact Store.serveKey_of_not_takes userPart tokenPart taken
  · have ran := runIn_delete_of_refused sound refused
    refine ⟨_, _, congrArg (Prod.map Receipt.count id) ran, ?_, rfl, rfl⟩
    exact Store.serveKey_of_refused refused

theorem serves_deleteAll (user : Text) :
    ∃ reply after, ask user .deleteAll world = (reply, after) ∧
      Serves user .deleteAll world reply after := by
  rcases StoreKey.isPart_or_start_eq_error user with userPart | ⟨error, refused⟩
  · cases taken : world.store.takes user with
    | true =>
        have ran := runIn_deleteAll userPart sound taken
        refine ⟨_, _, congrArg (Prod.map Receipt.count id) ran, ?_, rfl, rfl⟩
        simp only [Store.serve, StoreKey.start_of_isPart userPart, taken, if_true]
        rfl
    | false =>
        have ran := runIn_deleteAll_of_not_takes sound userPart taken
        refine ⟨_, _, congrArg (Prod.map Receipt.count id) ran, ?_, rfl, rfl⟩
        simp only [Store.serve, StoreKey.start_of_isPart userPart, taken, Bool.false_eq_true,
          if_false]
        rfl
  · have ran : Call.runIn (deleteAll user) world = _ := runIn_deleteAll_of_refused refused
    refine ⟨_, _, congrArg (Prod.map Receipt.count id) ran, ?_, rfl, rfl⟩
    simp only [Store.serve, refused]
    rfl

theorem serves_contains (user token : Text) :
    ∃ reply after, ask user (.contains token) world = (reply, after) ∧
      Serves user (.contains token) world reply after := by
  rcases StoreKey.isPart_or_make_eq_error user token with ⟨userPart, tokenPart⟩ | ⟨error, refused⟩
  · cases taken : world.store.takes (StoreKey.join user token) with
    | true =>
        have ran := runIn_contains userPart tokenPart sound taken
        refine ⟨_, _, congrArg (Prod.map Receipt.found id) ran, ?_, rfl, rfl⟩
        exact Store.serveKey_of_takes userPart tokenPart taken
    | false =>
        have ran := runIn_contains_of_not_takes sound userPart tokenPart taken
        refine ⟨_, _, congrArg (Prod.map Receipt.found id) ran, ?_, rfl, rfl⟩
        exact Store.serveKey_of_not_takes userPart tokenPart taken
  · have ran : Call.runIn (contains user token) world = _ := runIn_contains_of_refused refused
    refine ⟨_, _, congrArg (Prod.map Receipt.found id) ran, ?_, rfl, rfl⟩
    exact Store.serveKey_of_refused refused

end

theorem serves_expire (user token : Text) (world : World) :
    ∃ reply after, ask user (.expire token) world = (reply, after) ∧
      Serves user (.expire token) world reply after := by
  cases kind : world.store with
  | memory store =>
      cases made : StoreKey.make user token with
      | ok key =>
          have expired : store.expire world.clock.seconds user token = .ok
              (if (store.entries.find? key).isSome then ⟨store.entries.set key world.clock.seconds⟩
                else store) := by
            unfold MemoryStore.expire
            rw [made]
            rfl
          have ran : runIn (expire user token) world = (.ok (), { world with
              store := (Store.memory store).expire world.clock key }) := by
            simp only [expire, runIn_bind, runIn_get, kind, expired, runIn_ofKey_ok,
              runIn_setStore, Store.expire]
            split <;> rfl
          refine ⟨_, _, congrArg (Prod.map Receipt.done id) ran, ?_, rfl, rfl⟩
          simp only [Store.serve, Store.serveKey, kind, made]
          rfl
      | error error =>
          have refused : store.expire world.clock.seconds user token = .error error := by
            unfold MemoryStore.expire
            rw [made]
            rfl
          have ran : runIn (expire user token) world = (.error (.keyPart error), world) := by
            simp only [expire, runIn_bind, runIn_get, kind, refused, runIn_ofKey_error]
          refine ⟨_, _, congrArg (Prod.map Receipt.done id) ran, ?_, rfl, rfl⟩
          simp only [Store.serve, Store.serveKey, kind, made]
          rw [← kind]
          rfl
  | remote server =>
      have ran : runIn (expire user token) world = (.ok (), world) := by
        simp only [expire, runIn_bind, runIn_get, kind, runIn_pure]
      refine ⟨_, _, congrArg (Prod.map Receipt.done id) ran, ?_, rfl, rfl⟩
      simp only [Store.serve, kind]
      rw [← kind]
      rfl

/-- Without outages every request is served by the store alone. -/
theorem serves_ask {world : World} (sound : world.faults = {}) (user : Text)
    (request : Request) :
    Serves user request world (ask user request world).1 (ask user request world).2 := by
  have exists_served : ∃ reply after, ask user request world = (reply, after) ∧
      Serves user request world reply after := by
    cases request with
    | put token lifetime => exact serves_put sound user token lifetime
    | delete token => exact serves_delete sound user token
    | deleteAll => exact serves_deleteAll sound user
    | contains token => exact serves_contains sound user token
    | expire token => exact serves_expire user token world
  obtain ⟨reply, after, asked, serves⟩ := exists_served
  rw [asked]
  exact serves

end StoreAccess

end TokenAuthority
