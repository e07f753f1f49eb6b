import TokenAuthority.Text.CodePoint

/-!
Routes.

The routes are mounted under a path.  A route has one method of its own; with reading comes asking
for the headers alone, and every route tells its methods on demand.  A path that leads nowhere is
tried again with its doubled slashes merged, and if that leads somewhere, one is sent there.
-/

namespace TokenAuthority.Http

inductive Endpoint where
  | health
  | tokens
  | signOut
  | profile
  /-- The files beside the service, of which there are none. -/
  | staticFile
deriving DecidableEq, Repr

namespace Endpoint

def mounted : List Endpoint := [.health, .tokens, .signOut, .profile]

def name : Endpoint → String
  | .health => "/health"
  | .tokens => "/tokens"
  | .signOut => "/signout"
  | .profile => "/me"
  | .staticFile => "/static/"

def isReading : Endpoint → Bool
  | .tokens => false
  | .signOut => false
  | _ => true

def methods (endpoint : Endpoint) : List String :=
  if endpoint.isReading then ["GET", "HEAD", "OPTIONS"] else ["OPTIONS", "POST"]

end Endpoint

inductive Routed where
  | to (endpoint : Endpoint)
  | methodsOf (endpoint : Endpoint)
  | redirect (path : String)
  | methodNotAllowed
  | notFound
deriving DecidableEq, Repr

def isStaticPath (path : String) : Bool :=
  Endpoint.staticFile.name.toList.isPrefixOf path.toList &&
    (match path.toList.drop Endpoint.staticFile.name.length with
      | [] => false
      | first :: _ => first != '/')

def slash : Text.CodePoint := .char '/'

/-- Make one slash of each pair of slashes. -/
def mergeSlashes {Item : Type} [DecidableEq Item] (slash : Item) : List Item → List Item
  | first :: second :: rest =>
      if first = slash ∧ second = slash then slash :: mergeSlashes slash rest
      else first :: mergeSlashes slash (second :: rest)
  | rest => rest

def endpointOf? (mount : Text) (path : String) : Option Endpoint :=
  let mount := mergeSlashes slash mount
  match Endpoint.mounted.find? fun endpoint => (path : Text) == mount ++ endpoint.name with
  | some endpoint => some endpoint
  | none => if isStaticPath path then some .staticFile else none

def routeExactly (mount : Text) (path method : String) : Routed :=
  match endpointOf? mount path with
  | none => .notFound
  | some endpoint =>
      if method == "OPTIONS" then .methodsOf endpoint
      else if endpoint.methods.contains method then .to endpoint
      else .methodNotAllowed

def route (mount : Text) (path method : String) : Routed :=
  let merged := String.ofList (mergeSlashes '/' path.toList)
  match routeExactly mount path method with
  | .notFound =>
      match routeExactly mount merged method with
      | .to _ | .methodsOf _ => .redirect merged
      | routed => routed
  | routed => routed

def mountOf (base : Text) : Text :=
  (base.reverse.dropWhile (· == slash)).reverse ++ "/v1"

/-- The routes under a mount as texts: path and methods, in alphabetical order. -/
def ruleTexts (mount : Text) : List Text :=
  (Endpoint.mounted.map fun endpoint =>
    mount ++ endpoint.name ++ " " ++ ",".intercalate endpoint.methods).mergeSort Text.isAtMost

end TokenAuthority.Http
