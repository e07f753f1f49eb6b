import TokenAuthority.Service.World

/-!
Identifiers of requests.

A caller may send an identifier in one of two headers.  Since it ends up in reports, only a short
one of harmless characters is taken; otherwise a fresh one is drawn.  The identifier is assigned
where it is first asked for, and kept for as long as the request is served.
-/

namespace TokenAuthority.Http.RequestId

def headerNames : List String := ["X-Request-ID", "X-Correlation-ID"]

/-- The header by which a response tells the identifier. -/
def header : String := "X-Request-ID"

def isAllowed (character : Char) : Bool :=
  character.isAlphanum || character ∈ ['.', '_', ':', '-']

def lengthLimit : Nat := 128

def isWellFormed (text : String) : Bool :=
  !text.isEmpty && text.length ≤ lengthLimit && text.toList.all isAllowed

def incoming? (headers : Headers) : Option String :=
  headerNames.findSome? fun name =>
    ((headers.find? name).map Text.trim).filter isWellFormed

/-- The identifier for a request with certain headers: the one that it carries, or a fresh one. -/
def choose (headers : Headers) (world : World) : String × World :=
  match incoming? headers with
  | some id => (id, world)
  | none => world.drawRequestId

/-- The identifier of the request that is served, which is assigned if it has none yet.  While no
request is served, a fresh one is told each time. -/
def ensure (world : World) : String × World :=
  match world.scope with
  | none => world.drawRequestId
  | some scope =>
      match scope.requestId with
      | some id => (id, world)
      | none =>
          let (id, world) := choose scope.headers world
          (id, { world with scope := some { scope with requestId := some id } })

/-- The identifier that a report is stamped with: its own, if it has one that is set, or that of the
request that is served, if there is one. -/
def stamp (own : Json) (world : World) : Json × World :=
  if !own.isUnset then (own, world)
  else if world.scope.isNone then (.null, world)
  else
    let (id, world) := ensure world
    (.text id, world)

end TokenAuthority.Http.RequestId
