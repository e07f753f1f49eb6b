import TokenAuthority.Json.Reader
import TokenAuthority.Octets.Utf8

/-!
Reading JSON from octets.

The encoding is told by a byte order mark, or else by which of the first octets are zero: a JSON
text begins with an ASCII character, so that the zeros show width and order of the code units.
-/

namespace TokenAuthority.Json

inductive ByteOrder where
  | bigEndian
  | littleEndian
deriving DecidableEq, Repr

inductive Encoding where
  | utf8
  | utf16 (order : ByteOrder)
  | utf32 (order : ByteOrder)
deriving DecidableEq, Repr

def detectUnmarked : Octets → Encoding
  | first :: second :: third :: fourth :: _ =>
      if first = 0 then if second = 0 then .utf32 .bigEndian else .utf16 .bigEndian
      else if second = 0 then
        if third = 0 ∧ fourth = 0 then .utf32 .littleEndian else .utf16 .littleEndian
      else .utf8
  | [first, second] =>
      if first = 0 then .utf16 .bigEndian
      else if second = 0 then .utf16 .littleEndian
      else .utf8
  | _ => .utf8

/-- The encoding of octets, and the octets after a byte order mark. -/
def detect : Octets → Encoding × Octets
  | 0x00 :: 0x00 :: 0xfe :: 0xff :: rest => (.utf32 .bigEndian, rest)
  | 0xff :: 0xfe :: 0x00 :: 0x00 :: rest => (.utf32 .littleEndian, rest)
  | 0xfe :: 0xff :: rest => (.utf16 .bigEndian, rest)
  | 0xff :: 0xfe :: rest => (.utf16 .littleEndian, rest)
  | 0xef :: 0xbb :: 0xbf :: rest => (.utf8, rest)
  | octets => (detectUnmarked octets, octets)

def unitValue (order : ByteOrder) (octets : Octets) : Nat :=
  match order with
  | .bigEndian => Octets.toNat octets
  | .littleEndian => Octets.toNat octets.reverse

def units16? (order : ByteOrder) : Octets → Option (List Nat)
  | [] => some []
  | [_] => none
  | first :: second :: rest => (units16? order rest).map (unitValue order [first, second] :: ·)

def units32? (order : ByteOrder) : Octets → Option (List Nat)
  | [] => some []
  | first :: second :: third :: fourth :: rest =>
      (units32? order rest).map (unitValue order [first, second, third, fourth] :: ·)
  | _ => none

/-- Decode octets.  Code units of two octets are joined to characters where they make one up. -/
def Encoding.decode? (encoding : Encoding) (octets : Octets) : Option Text :=
  match encoding with
  | .utf8 => Utf8.decodeLenient? octets
  | .utf16 order => (units16? order octets).map fun units => Text.join (units.map .ofNat)
  | .utf32 order =>
      (units32? order octets).bind fun units =>
        if units.all (· < 0x110000) then some (units.map .ofNat) else none

def readOctets (depth : Nat) (octets : Octets) : Except ReadError Json :=
  let (encoding, octets) := detect octets
  match encoding.decode? octets with
  | some codes => read depth codes
  | none => .error .malformed

end TokenAuthority.Json
