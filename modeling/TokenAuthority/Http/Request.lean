import TokenAuthority.Http.Headers
import TokenAuthority.Http.Target
import TokenAuthority.Json.Encoding

/-!
Requests.

The type of the body is told by the first header of its exact name, all else by headers under the
names that count as one.
-/

namespace TokenAuthority.Http

structure Request where
  method : String
  target : String
  headers : Headers := []
  body : Octets := []

namespace Request

/-- The method by which a request is judged: small letters count as capitals. -/
def verb (request : Request) : String :=
  request.method.map Text.capital

/-- The URL that is asked for.  A header may name another host; the port that its scheme implies is
left out of it. -/
def url (request : Request) : Url :=
  let url := Url.ofTarget request.target
  let own := if url.host.isEmpty then "localhost" else url.host
  let host := Text.lowerAscii ((request.headers.find? "Host").getD own)
  let port := if url.scheme = some "https" then ":443" else ":80"
  let host :=
    if port.toList.isSuffixOf host.toList then
      String.ofList (host.toList.take (host.length - port.length))
    else host
  { url with host }

def path (request : Request) : String :=
  (Url.ofTarget request.target).decodedPath

/-- The number of octets of the body, which is told of no empty body and of none that comes in
pieces. -/
def length? (request : Request) : Option Nat :=
  if request.headers.find? "Transfer-Encoding" = some "chunked" || request.body.isEmpty then none
  else some request.body.length

def mediaType (request : Request) : String :=
  let value := (request.headers.first? "Content-Type").getD ""
  Text.lowerAscii (Text.trim (String.ofList (value.toList.takeWhile (· != ';'))))

def isJson (request : Request) : Bool :=
  let kind := request.mediaType.toList
  kind == "application/json".toList ||
    ("application/".toList.isPrefixOf kind && "+json".toList.isSuffixOf kind)

def bearerStart : List Char := "Bearer ".toList

def bearerToken? (request : Request) : Option String :=
  let value := ((request.headers.find? "Authorization").getD "").toList
  if bearerStart.isPrefixOf value then
    let token := Text.trim (String.ofList (value.drop bearerStart.length))
    if token.isEmpty then none else some token
  else none

end Request

end TokenAuthority.Http
