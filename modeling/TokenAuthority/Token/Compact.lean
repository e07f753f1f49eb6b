import TokenAuthority.Digest.Hmac
import TokenAuthority.Json.Encoding
import TokenAuthority.Json.Writer
import TokenAuthority.Octets.Base64
import TokenAuthority.Rsa.Signature
import TokenAuthority.Token.Secret

/-!
Signed tokens in the compact form.

A token is three base64url texts joined by points: a header that names the algorithm, a payload, and
the signature over the first two texts as they stand.  `sign?` writes a token and `open?` takes one
apart, checks it and hands back the members of its payload.
-/

namespace TokenAuthority.Compact

inductive Algorithm where
  | rs256
  | hs256
deriving DecidableEq, Repr

def Algorithm.name : Algorithm → String
  | .rs256 => "RS256"
  | .hs256 => "HS256"

inductive SigningKey where
  | rsa (key : Rsa.PrivateKey)
  | secret (text : Text)
deriving DecidableEq, Repr

inductive VerificationKey where
  | rsa (key : Rsa.PublicKey)
  | secret (text : Text)
deriving DecidableEq, Repr

def SigningKey.algorithm : SigningKey → Algorithm
  | .rsa _ => .rs256
  | .secret _ => .hs256

def VerificationKey.algorithm : VerificationKey → Algorithm
  | .rsa _ => .rs256
  | .secret _ => .hs256

def SigningKey.sign? : SigningKey → Octets → Option Octets
  | .rsa key, message => Rsa.sign? key message
  | .secret text, message => (Secret.octets? text).map fun octets => Hmac.sign octets message

def VerificationKey.verify : VerificationKey → (message signature : Octets) → Bool
  | .rsa key, message, signature => Rsa.verify key message signature
  | .secret text, message, signature =>
      (Secret.octets? text).any fun octets => signature == Hmac.sign octets message

def asciiOctets (characters : List Char) : Octets :=
  characters.map fun character => UInt8.ofNat character.toNat

def jsonPart (value : Json) : List Char :=
  Base64.encodeUrl (asciiOctets (Json.write .compact value))

def header (algorithm : Algorithm) : Json :=
  .object [("alg", .text algorithm.name), ("typ", .text "JWT")]

def signedPart (algorithm : Algorithm) (payload : Json) : List Char :=
  jsonPart (header algorithm) ++ '.' :: jsonPart payload

def sign? (key : SigningKey) (payload : Json) : Option String :=
  let signed := signedPart key.algorithm payload
  (key.sign? (asciiOctets signed)).map fun signature =>
    String.ofList (signed ++ '.' :: Base64.encodeUrl signature)

/-- The three parts of a token's text, with the text that the signature covers. -/
structure Parts where
  signed : List Char
  header : List Char
  payload : List Char
  signature : List Char
deriving DecidableEq, Repr

def splitFirst? : List Char → Option (List Char × List Char)
  | [] => none
  | character :: rest =>
      if character = '.' then some ([], rest)
      else (splitFirst? rest).map fun (before, after) => (character :: before, after)

def splitLast? (characters : List Char) : Option (List Char × List Char) :=
  (splitFirst? characters.reverse).map fun (after, before) => (before.reverse, after.reverse)

/-- The parts of a token; a text with surrogates has none. -/
def split? (token : Text) : Option Parts := do
  let (signed, signature) ← splitLast? (← token.characters?)
  let (header, payload) ← splitFirst? signed
  return ⟨signed, header, payload, signature⟩

/-- How deep the parts of a token may be nested.  Deeper ones are refused like any others that are
not read. -/
def nestingLimit : Nat := Machine.usual.levels

def readMembers? (octets : Octets) : Option (List (Text × Json)) :=
  match Json.readOctets nestingLimit octets with
  | .ok value => value.members?
  | .error _ => none

def partMembers? (part : List Char) : Option (List (Text × Json)) :=
  (Base64.decode? Base64.urlSafe part).bind readMembers?

/-- Whether the critical extensions that a header lists are known and present. -/
def criticalExtensionsKnown (header : List (Text × Json)) : Bool :=
  match Json.lookup? "crit" header with
  | none => true
  | some (.array names) =>
      !names.isEmpty && names.all fun name =>
        match name with
        | .text text => text == "b64" && (Json.lookup? text header).isSome
        | _ => false
  | some _ => false

/-- Whether a header's payload is encoded; a header may say that it is not. -/
def payloadEncoded (header : List (Text × Json)) : Bool :=
  match Json.lookup? "b64" header with
  | some (.bool false) => false
  | _ => true

def isTextIfPresent (name : Text) (members : List (Text × Json)) : Bool :=
  match Json.lookup? name members with
  | none => true
  | some (.text _) => true
  | some _ => false

def headerFits (algorithm : Algorithm) (header : List (Text × Json)) : Bool :=
  payloadEncoded header && isTextIfPresent "kid" header && criticalExtensionsKnown header &&
    (match Json.lookup? "alg" header with
      | some (.text name) => name == (algorithm.name : Text)
      | _ => false)

/-- What a token says, before its signature has been checked. -/
structure Message where
  signed : Octets
  payload : Octets
  signature : Octets
deriving DecidableEq, Repr

def read? (algorithm : Algorithm) (token : Text) : Option Message := do
  let parts ← split? token
  let header ← partMembers? parts.header
  let payload ← Base64.decode? Base64.urlSafe parts.payload
  let signature ← Base64.decode? Base64.urlSafe parts.signature
  if headerFits algorithm header then return ⟨asciiOctets parts.signed, payload, signature⟩
  else none

/-- The members of the payload of a token whose header fits the key and whose signature is right. -/
def open? (key : VerificationKey) (token : Text) : Option (List (Text × Json)) := do
  let message ← read? key.algorithm token
  if key.verify message.signed message.signature then readMembers? message.payload else none

end TokenAuthority.Compact
