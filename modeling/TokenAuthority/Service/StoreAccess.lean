import TokenAuthority.Service.World

/-!
Access to the revocation store of the world.

Each operation is one atomic step of the store, of whichever kind it is, under the faults of the
world.  A fault of the store is reported where it occurs and ends the operation as an unavailable
store.  A command for a key server encodes its key, or its pattern, unless it fails before.
-/

namespace TokenAuthority.StoreAccess

def remoteLogger : String := "account_tokens.infra.redis.redis_revocation_store"

def connectionFault : String := "ConnectionError"

def reportFailure (message : String) (subject : List (Text × Json)) : Call Unit :=
  Call.report
    { severity := .error, logger := remoteLogger, message, subject, fault := some connectionFault }

def subject (user token : Text) : List (Text × Json) :=
  [("user_id", .text user), ("token_id", .text token)]

def setStore (store : Store) : Call Unit :=
  modify fun world => { world with store }

/-- Let happen what happens while an entry is registered. -/
def disturb (world : World) : World :=
  { world.advance world.duringPut.elapsed with raised := world.duringPut.raised ++ world.raised }

/-- Register a token for a duration in microseconds. -/
def put (user token : Text) (lifetime : Int) : Call Unit := do
  let world ← get
  match world.store with
  | .memory store =>
      if world.faults.set.isAny then Call.fail .storeUnavailable
      else
        setStore (.memory (← Call.ofKey (store.put world.clock.seconds user token lifetime)))
  | .remote server =>
      let key ← Call.ofKey (StoreKey.make user token)
      if world.faults.set.hits key then
        reportFailure "Could not SET refresh token in Redis" (subject user token)
        Call.fail .storeUnavailable
      else
        Call.encode key
        setStore (.remote (server.set world.clock.wall key (Duration.storeSeconds lifetime)))
  modify disturb

def delete (user token : Text) : Call Nat := do
  let world ← get
  match world.store with
  | .memory store =>
      if world.faults.delete.hits (StoreKey.join user token) then Call.fail .storeUnavailable
      else
        let (count, store) ← Call.ofKey (store.delete world.clock.seconds user token)
        setStore (.memory store)
        return count
  | .remote server =>
      let key ← Call.ofKey (StoreKey.make user token)
      if world.faults.delete.hits key then
        reportFailure "Could not DEL refresh token in Redis" (subject user token)
        Call.fail .storeUnavailable
      else
        Call.encode key
        let (count, server) := server.delete world.clock.wall key
        setStore (.remote server)
        return count

def reportSweep (user : Text) : (failed : Nat) → Call Unit
  | 0 => return
  | failed + 1 => do
      reportFailure "Could not DEL refresh token during sign-out" [("user_id", .text user)]
      reportSweep user failed

/-- End the removal of a user's keys, some of which are gone, as an unavailable store. -/
def scanFailed {α : Type} (user : Text) (removed : Nat) : Call α := do
  reportFailure "Could not SCAN refresh tokens in Redis"
    [("user_id", .text user), ("count", .int removed)]
  Call.fail .storeUnavailable

/-- Remove the keys of a user that a scan of the key server finds.  Every key is attempted, and only
then is a failure told, unless the sweep breaks off. -/
def sweepRemote (user pattern : Text) (server : KeyServer) : Call Nat := do
  let world ← get
  Call.encode pattern
  let swept := server.sweep world.faults.delete.hits world.clock.wall
    (server.scan world.clock.wall pattern)
  setStore (.remote swept.server)
  reportSweep user swept.failed
  if swept.brokenOff then throw .undecodable
  else if world.faults.scanEnd then scanFailed user swept.removed
  else if swept.failed = 0 then return swept.removed
  else Call.fail (.revocationIncomplete swept.failed user)

def deleteAll (user : Text) : Call Nat := do
  let world ← get
  match world.store with
  | .memory store =>
      let (count, store) ← Call.ofKey (store.deleteAll world.clock.seconds user)
      setStore (.memory store)
      return count
  | .remote server =>
      let start ← Call.ofKey (StoreKey.start user)
      if world.faults.scan then scanFailed user 0
      else sweepRemote user (Pattern.startingWith start) server

def contains (user token : Text) : Call Bool := do
  let world ← get
  match world.store with
  | .memory store =>
      let (found, store) ← Call.ofKey (store.contains world.clock.seconds user token)
      setStore (.memory store)
      return found
  | .remote server =>
      let key ← Call.ofKey (StoreKey.make user token)
      if world.faults.contains then
        reportFailure "Could not check refresh token in Redis" (subject user token)
        Call.fail .storeUnavailable
      else
        Call.encode key
        return server.contains world.clock.wall key

/-- Let a token's entry end now; a key server offers no such thing. -/
def expire (user token : Text) : Call Unit := do
  let world ← get
  match world.store with
  | .memory store =>
      setStore (.memory (← Call.ofKey (store.expire world.clock.seconds user token)))
  | .remote _ => return

def size : Call Nat := do
  let world ← get
  match world.store with
  | .memory store =>
      let (count, store) := store.size world.clock.seconds
      setStore (.memory store)
      return count
  | .remote server => return (server.remaining world.clock.wall).length

end TokenAuthority.StoreAccess
