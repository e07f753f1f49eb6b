import TokenAuthority.Json.Encoding
import TokenAuthority.Key.Line
import TokenAuthority.Machine

/-!
Secrets that may authenticate messages.

A secret is shared, so a text that is meant for other uses is refused: nothing at all, key
material in an armoured block, in a line format, in distinguished encoding, or as a JSON document
that describes a key.  So is a text that cannot be encoded.
-/

namespace TokenAuthority.Secret

def armourLabels : List String :=
  ["CERTIFICATE", "TRUSTED CERTIFICATE", "PRIVATE KEY", "ENCRYPTED PRIVATE KEY",
   "OPENSSH PRIVATE KEY", "DSA PRIVATE KEY", "RSA PRIVATE KEY", "EC PRIVATE KEY", "PUBLIC KEY",
   "RSA PUBLIC KEY", "DH PARAMETERS", "CERTIFICATE REQUEST", "NEW CERTIFICATE REQUEST",
   "SSH2 PUBLIC KEY", "SSH2 ENCRYPTED PRIVATE KEY", "X509 CRL"]

def keyLineStarts : List String :=
  ["ssh-ed25519", "ssh-rsa", "ssh-dss", "ecdsa-sha2-nistp256", "ecdsa-sha2-nistp384",
   "ecdsa-sha2-nistp521"]

/-- The ways to write a marker; a dash or a blank stands next to the words. -/
def markers (word label : String) : List (List Char) :=
  ['-', ' '].flatMap fun before => ['-', ' '].map fun after =>
    "----".toList ++ before :: (word.toList ++ ' ' :: label.toList) ++ after :: "----".toList

def afterAny? (marks : List (List Char)) (characters : List Char) : Option (List Char) :=
  (marks.find? fun mark => mark.isPrefixOf characters).map fun mark => characters.drop mark.length

def containsAny (marks : List (List Char)) : List Char → Bool
  | [] => false
  | character :: rest =>
      (afterAny? marks (character :: rest)).isSome || containsAny marks rest

/-- Whether a block of a label stands in a text: its end follows its begin after at least one
character. -/
def holdsBlock (label : String) : List Char → Bool
  | [] => false
  | character :: rest =>
      (match afterAny? (markers "BEGIN" label) (character :: rest) with
        | some after => containsAny (markers "END" label) (after.drop 1)
        | none => false) || holdsBlock label rest

def isArmoured (characters : List Char) : Bool :=
  armourLabels.any fun label => holdsBlock label characters

/-- Whether a text is a line that holds a key, or one of two words that holds a certificate. -/
def isKeyLine (octets : Octets) : Bool :=
  (keyLineStarts.any fun start => (Octets.ofAscii start).isPrefixOf octets) ||
    (Key.Line.words? octets).any fun (name, _) => Key.Line.isCertificateName name

mutual

/-- Whether a value has, at any depth, a member that tells the type of a key. -/
def describesKey : Json → Bool
  | .array items => anyDescribesKey items
  | .object members => anyMemberDescribesKey members
  | _ => false

def anyDescribesKey : List Json → Bool
  | [] => false
  | item :: rest => describesKey item || anyDescribesKey rest

def anyMemberDescribesKey : List (Text × Json) → Bool
  | [] => false
  | (name, value) :: rest => name == "kty" || describesKey value || anyMemberDescribesKey rest

end

def isKeyDocument (octets : Octets) : Bool :=
  match Json.readOctets Machine.usual.levels octets with
  | .ok value => describesKey value
  | .error _ => false

/-- Whether a text may authenticate messages. -/
def isUsable (secret : String) : Bool :=
  let octets := Utf8.encode secret
  !secret.isEmpty && !isArmoured secret.toList && !isKeyLine octets &&
    !Key.isPublic octets && !isKeyDocument octets

/-- The octets by which a secret authenticates messages, if it may. -/
def octets? (secret : Text) : Option Octets :=
  (secret.string?.filter isUsable).map Utf8.encode

end TokenAuthority.Secret
