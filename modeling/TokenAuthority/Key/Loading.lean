import TokenAuthority.Key.Format
import TokenAuthority.Key.Pem

/-!
Keys in armoured blocks.

A block's label tells the format of the key in it.  A private key is looked for among all blocks of
a text, a public key is the first block.
-/

namespace TokenAuthority.Key

def privateLabels : List String :=
  ["PRIVATE KEY", "ENCRYPTED PRIVATE KEY", "RSA PRIVATE KEY", "EC PRIVATE KEY", "DSA PRIVATE KEY"]

/-- Refuse a block whose headers say that its data have been processed, as encryption does. -/
def checkPlain (block : Pem.Block) : Except LoadError Unit :=
  match block.header? "Proc-Type" with
  | none => .ok ()
  | some kind =>
      if kind = "4,ENCRYPTED" ∧ (block.header? "DEK-Info").isSome then .error .locked
      else .error .unreadable

def privateOfBlock (block : Pem.Block) : Except LoadError (AnyKey Rsa.PrivateKey) := do
  checkPlain block
  match block.label with
  | "PRIVATE KEY" => neutralPrivate block.octets
  | "RSA PRIVATE KEY" => return .rsa (← readable (rsaPrivate? block.octets))
  | "EC PRIVATE KEY" => curvePrivate none block.octets
  | "DSA PRIVATE KEY" => dsaPrivate block.octets
  | "ENCRYPTED PRIVATE KEY" =>
      .error (if isEncrypted block.octets then .locked else .unreadable)
  | _ => .error .unreadable

/-- The RSA key of a block that is labelled so; the neutral format is read as well. -/
def rsaLabelled? (octets : Octets) : Option Rsa.PublicKey :=
  (rsaPublic? octets).or ((neutralPublic octets).bind AnyKey.rsaOnly).toOption

def publicOfBlock (block : Pem.Block) : Except LoadError (AnyKey Rsa.PublicKey) := do
  match block.label with
  | "PUBLIC KEY" => neutralPublic block.octets
  | "RSA PUBLIC KEY" => return .rsa (← readable (rsaLabelled? block.octets))
  | _ => .error .unreadable

def loadPrivate (octets : Octets) : Except LoadError Rsa.PrivateKey := do
  (← privateOfBlock (← readable (Pem.firstLabelled? privateLabels octets))).rsaOnly

def loadPublic (octets : Octets) : Except LoadError Rsa.PublicKey := do
  (← publicOfBlock (← readable (Pem.firstBlock? octets))).rsaOnly

end TokenAuthority.Key
