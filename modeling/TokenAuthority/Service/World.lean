import TokenAuthority.Failure
import TokenAuthority.Http.Headers
import TokenAuthority.Log.Event
import TokenAuthority.Service.Context
import TokenAuthority.Store.Memory
import TokenAuthority.Store.Remote
import TokenAuthority.Token.Id

/-!
The world that calls act on.

A world holds the clocks, the revocation store with the faults that it is under, the sources of
fresh identifiers, the signals that callers have raised, the request that is being served, and the
reports made so far.  A call is a function from a world to an outcome and a world; what a failed
call did to the world stays done.
-/

namespace TokenAuthority

inductive Store where
  | memory (store : MemoryStore)
  | remote (server : KeyServer)
deriving DecidableEq, Repr

/-- The keys for which a command fails. -/
inductive Outage where
  | none
  | everywhere
  | forKeys (keys : List Text)
deriving DecidableEq, Repr

def Outage.hits (outage : Outage) (key : Text) : Bool :=
  match outage with
  | .none => false
  | .everywhere => true
  | .forKeys keys => keys.contains key

def Outage.isAny : Outage → Bool
  | .none => false
  | .everywhere => true
  | .forKeys keys => !keys.isEmpty

structure Faults where
  set : Outage := .none
  delete : Outage := .none
  contains : Bool := false
  ping : Bool := false
  /-- A scan fails before it finds anything. -/
  scan : Bool := false
  /-- A scan fails after it has found every key. -/
  scanEnd : Bool := false
deriving DecidableEq, Repr

/-- What happens elsewhere while a store registers an entry. -/
structure Disturbance where
  /-- Milliseconds that pass. -/
  elapsed : Int := 0
  /-- Signals that callers raise. -/
  raised : List Signal := []
deriving DecidableEq, Repr

/-- The sources of fresh identifiers: what is drawn after a number of earlier draws. -/
structure IdSource where
  token : Nat → TokenId
  request : Nat → String

def IdSource.counting : IdSource where
  token drawn := TokenId.numbered (drawn + 1)
  request drawn :=
    let first := 0x1000_0000_0000_4000_8000_0000_0000_0000
    String.ofList (TokenId.characters (first + (drawn + 1) % 0x1_0000_0000_0000))

/-- What is known of a request while it is served. -/
structure RequestScope where
  headers : Http.Headers
  /-- The identifier of the request, once it has been asked for. -/
  requestId : Option String := none
  /-- When the request began to be served. -/
  started : Option Clock := none

structure World where
  clock : Clock
  store : Store
  faults : Faults := {}
  duringPut : Disturbance := {}
  ids : IdSource := .counting
  tokensDrawn : Nat := 0
  requestsDrawn : Nat := 0
  raised : List Signal := []
  /-- The request that is being served, if any. -/
  scope : Option RequestScope := none
  /-- The reports, latest first. -/
  reports : List Log.Event := []

/-- A call: it has an outcome, and it leaves a world behind. -/
abbrev Call (α : Type) := ExceptT Failure (StateM World) α

namespace World

def advance (world : World) (milliseconds : Int) : World :=
  { world with clock := world.clock.advance milliseconds }

def report (world : World) (event : Log.Event) : World :=
  { world with reports := event :: world.reports }

/-- The keys that count now, with the milliseconds that they have left. -/
def remaining (world : World) : List (Text × Int) :=
  match world.store with
  | .memory store => store.remaining world.clock.seconds
  | .remote server => server.remaining world.clock.wall

def drawRequestId (world : World) : String × World :=
  (world.ids.request world.requestsDrawn, { world with requestsDrawn := world.requestsDrawn + 1 })

end World

namespace Call

def fail {α : Type} (error : ServiceError) : Call α :=
  throw (.service error)

def report (event : Log.Event) : Call Unit :=
  modify (World.report · event)

def ofKey {α : Type} (result : Except StoreKey.PartError α) : Call α :=
  match result with
  | .ok value => return value
  | .error error => throw (.keyPart error)

/-- End the call unless a text can be encoded. -/
def encode (text : Text) : Call Unit :=
  if text.isEncodable then return else throw .unencodable

def drawTokenId : Call TokenId := do
  let world ← get
  set { world with tokensDrawn := world.tokensDrawn + 1 }
  return world.ids.token world.tokensDrawn

end Call

end TokenAuthority
