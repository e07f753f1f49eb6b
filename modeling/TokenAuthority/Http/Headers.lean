import TokenAuthority.Text.Blank

/-!
Headers of requests and responses.

Names of headers are compared without regard to case.  In those of a request dashes and underscores
count as one, and the values of headers of one name are joined.
-/

namespace TokenAuthority.Http

abbrev Headers := List (String × String)

def headerName (name : String) : String :=
  Text.lowerAscii (name.map fun character => if character = '_' then '-' else character)

/-- The headers of pairs; no value may hold a line break. -/
def Headers.ofPairs? (pairs : List (String × String)) : Option Headers :=
  if pairs.all fun pair => pair.2.toList.all fun character => character ∉ ['\r', '\n'] then
    some pairs
  else none

def Headers.find? (headers : Headers) (name : String) : Option String :=
  match List.filter (fun header => headerName header.1 == headerName name) headers with
  | [] => none
  | found => some (", ".intercalate (found.map Prod.snd))

def Headers.first? (headers : Headers) (name : String) : Option String :=
  (List.find? (fun header => Text.lowerAscii header.1 == Text.lowerAscii name) headers).map Prod.snd

namespace Headers

/-- Give a header a value, unless one of its name is there. -/
def setDefault (headers : Headers) (name value : String) : Headers :=
  if (headers.first? name).isSome then headers else headers ++ [(name, value)]

end Headers

end TokenAuthority.Http
