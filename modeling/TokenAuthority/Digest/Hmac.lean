import TokenAuthority.Digest.Sha256

/-!
Message authentication by HMAC over SHA-256.
-/

namespace TokenAuthority.Hmac

def blockSize : Nat := 64

/-- A key brought to the size of a block: digested when it is longer, then filled with zeros. -/
def blockKey (key : Octets) : Octets :=
  let short := if blockSize < key.length then Sha256.digest key else key
  short ++ List.replicate (blockSize - short.length) 0

def sign (key message : Octets) : Octets :=
  let block := blockKey key
  Sha256.digest
    (block.map (· ^^^ 0x5c) ++ Sha256.digest (block.map (· ^^^ 0x36) ++ message))

end TokenAuthority.Hmac
