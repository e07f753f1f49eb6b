import TokenAuthority.Octets.Basic

/-!
Values in the distinguished encoding of ASN.1.

A value is a tag, a length in its shortest form and contents; the contents of a sequence are
values again.  Reading is exact: what is left over after a value is handed back, and a sequence
must be used up by its values.
-/

namespace TokenAuthority.Der

structure Value where
  tag : UInt8
  content : Octets
deriving DecidableEq, Repr

def integerTag : UInt8 := 0x02
def bitStringTag : UInt8 := 0x03
def octetStringTag : UInt8 := 0x04
def nullTag : UInt8 := 0x05
def identifierTag : UInt8 := 0x06
def sequenceTag : UInt8 := 0x30
def setTag : UInt8 := 0x31

/-- The tag of a part that is told by its place; such a part holds values. -/
def placeTag (place : UInt8) : UInt8 := 0xa0 + place

def readLength? : Octets → Option (Nat × Octets)
  | [] => none
  | first :: rest =>
      if first < 0x80 then some (first.toNat, rest)
      else
        let count := first.toNat - 0x80
        let digits := rest.take count
        let length := Octets.toNat digits
        let isShortest := digits.head? ≠ some 0 ∧ 0x80 ≤ length
        if 0 < count ∧ count ≤ 4 ∧ digits.length = count ∧ isShortest then
          some (length, rest.drop count)
        else none

def readValue? : Octets → Option (Value × Octets)
  | [] => none
  | tag :: rest =>
      match readLength? rest with
      | some (length, rest) =>
          if length ≤ rest.length then some (⟨tag, rest.take length⟩, rest.drop length) else none
      | none => none

/-- Read values until the octets are used up; the bound is the number of octets. -/
def readValues? : (bound : Nat) → Octets → Option (List Value)
  | _, [] => some []
  | 0, _ => none
  | bound + 1, octets =>
      match readValue? octets with
      | some (value, rest) => (readValues? bound rest).map (value :: ·)
      | none => none

def values? (octets : Octets) : Option (List Value) :=
  readValues? octets.length octets

def readOne? (octets : Octets) : Option Value :=
  match readValue? octets with
  | some (value, []) => some value
  | _ => none

def Value.contentOf? (tag : UInt8) (value : Value) : Option Octets :=
  if value.tag = tag then some value.content else none

def Value.partsOf? (tag : UInt8) (value : Value) : Option (List Value) :=
  (value.contentOf? tag).bind values?

def Value.items? (value : Value) : Option (List Value) :=
  value.partsOf? sequenceTag

def readSequence? (octets : Octets) : Option (List Value) :=
  (readOne? octets).bind Value.items?

/-- The natural that an integer value holds, written with as few octets as its sign allows. -/
def Value.natural? (value : Value) : Option Nat :=
  if value.tag ≠ integerTag then none
  else
    match value.content with
    | [] => none
    | [single] => if single < 0x80 then some single.toNat else none
    | first :: second :: _ =>
        if 0x80 ≤ first ∨ (first = 0 ∧ second < 0x80) then none
        else some (Octets.toNat value.content)

def naturals? (values : List Value) : Option (List Nat) :=
  values.mapM Value.natural?

def readNatural? (octets : Octets) : Option Nat :=
  (readOne? octets).bind Value.natural?

/-- The octets of a bit string whose bits are all used.  The first octet of its content counts the
bits of the last one that are not. -/
def Value.bits? (value : Value) : Option Octets :=
  match value.contentOf? bitStringTag with
  | some (unused :: octets) => if unused = 0 then some octets else none
  | _ => none

/-- Whether octets write the numbers of an object identifier, each without leading zeros; there are
at most 63 of them. -/
def isIdentifier (octets : Octets) : Bool :=
  let isLast := fun (octet : UInt8) => octet < 0x80
  let starts := octets.head?.toList ++
    ((octets.zip octets.tail).filter fun (before, _) => isLast before).map Prod.snd
  octets.length ≤ 63 && octets.getLast?.any isLast && starts.all (· != 0x80)

def Value.identifier? (value : Value) : Option Octets :=
  (value.contentOf? identifierTag).filter isIdentifier

def takeTagged (tag : UInt8) : List Value → Option Value × List Value
  | [] => (none, [])
  | value :: rest => if value.tag = tag then (some value, rest) else (none, value :: rest)

def Value.single? (value : Value) : Option Value :=
  readOne? value.content

end TokenAuthority.Der
