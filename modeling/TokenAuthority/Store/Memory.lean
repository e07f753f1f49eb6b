import TokenAuthority.Store.Key
import TokenAuthority.Store.Table
import TokenAuthority.Time.Duration

/-!
The revocation store in the memory of a process.

Deadlines are seconds of the ticking clock in floating point, rounded as they are summed up, and an
entry counts while its deadline is strictly ahead.  Entries that no longer count are removed when an
operation comes across them.  Every operation takes the time and the store, and answers with its
value and the store afterwards.
-/

namespace TokenAuthority

structure MemoryStore where
  entries : Table Binary64
deriving DecidableEq, Repr

namespace MemoryStore

def empty : MemoryStore := ⟨[]⟩

/-- The deadline of a key whose entry counts. -/
def liveDeadline? (store : MemoryStore) (now : Binary64) (key : Text) : Option Binary64 :=
  (store.entries.find? key).filter fun deadline => !deadline.atMost now

/-- Whether the entry of a key counts; one that does not is removed. -/
def check (store : MemoryStore) (now : Binary64) (key : Text) : Bool × MemoryStore :=
  match store.entries.find? key with
  | none => (false, store)
  | some deadline =>
      if deadline.atMost now then (false, ⟨store.entries.erase key⟩) else (true, store)

def countLive (now : Binary64) : MemoryStore → List Text → Nat × MemoryStore
  | store, [] => (0, store)
  | store, key :: rest =>
      let (alive, store) := store.check now key
      let (count, store) := countLive now store rest
      (if alive then count + 1 else count, store)

def keysFrom (store : MemoryStore) (start : Text) : List Text :=
  store.entries.keys.filter fun key => start.isPrefixOf key

/-- The deadline of an entry that is registered now for a duration in microseconds. -/
def deadlineAfter (now : Binary64) (lifetime : Int) : Binary64 :=
  now.add (.ofInt (Duration.storeSeconds lifetime))

/-- Register a token for a duration in microseconds. -/
def put (store : MemoryStore) (now : Binary64) (user token : Text) (lifetime : Int) :
    Except StoreKey.PartError MemoryStore := do
  let key ← StoreKey.make user token
  return ⟨store.entries.set key (deadlineAfter now lifetime)⟩

/-- Remove a token and tell how many entries counted: one or none. -/
def delete (store : MemoryStore) (now : Binary64) (user token : Text) :
    Except StoreKey.PartError (Nat × MemoryStore) := do
  let key ← StoreKey.make user token
  let (alive, store) := store.check now key
  return if alive then (1, ⟨store.entries.erase key⟩) else (0, store)

def deleteAll (store : MemoryStore) (now : Binary64) (user : Text) :
    Except StoreKey.PartError (Nat × MemoryStore) := do
  let keys := store.keysFrom (← StoreKey.start user)
  let (count, store) := countLive now store keys
  return (count, ⟨keys.foldl Table.erase store.entries⟩)

def contains (store : MemoryStore) (now : Binary64) (user token : Text) :
    Except StoreKey.PartError (Bool × MemoryStore) := do
  return store.check now (← StoreKey.make user token)

/-- Let a token's entry end now, if there is one. -/
def expire (store : MemoryStore) (now : Binary64) (user token : Text) :
    Except StoreKey.PartError MemoryStore := do
  let key ← StoreKey.make user token
  return if (store.entries.find? key).isSome then ⟨store.entries.set key now⟩ else store

def size (store : MemoryStore) (now : Binary64) : Nat × MemoryStore :=
  countLive now store store.entries.keys

/-- The milliseconds, to the nearest one, until a deadline. -/
def millisecondsLeft (now deadline : Binary64) : Int :=
  (((deadline.sub now).scale 1000).nearest?).getD 0

/-- The keys whose entries count, with the milliseconds that they have left. -/
def remaining (store : MemoryStore) (now : Binary64) : List (Text × Int) :=
  (store.entries.filter fun entry => !entry.2.atMost now).map fun entry =>
    (entry.1, millisecondsLeft now entry.2)

end MemoryStore

end TokenAuthority
