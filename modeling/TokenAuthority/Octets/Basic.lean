/-!
Octet strings and the naturals that they write in base 256, most significant octet first.
-/

namespace TokenAuthority

abbrev Octets := List UInt8

namespace Octets

/-- The natural that octets write, most significant first. -/
def toNat (octets : Octets) : Nat :=
  octets.foldl (fun value octet => value * 256 + octet.toNat) 0

/-- The lowest octets of a natural, as many as asked for, most significant first. -/
def ofNat : (count : Nat) → (value : Nat) → Octets
  | 0, _ => []
  | count + 1, value => ofNat count (value / 256) ++ [UInt8.ofNat value]

def ofAscii (text : String) : Octets :=
  text.toList.map fun character => UInt8.ofNat character.toNat

end Octets

end TokenAuthority
