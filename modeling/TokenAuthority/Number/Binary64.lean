/-!
Binary floating-point numbers of 64 bits.

A finite number is a sign and a magnitude that counts units of 2^-1074, the smallest positive number
of the format, so that every finite number is exact and arithmetic on magnitudes is arithmetic on
naturals.  `roundUnits` takes a quotient of naturals to the nearest magnitude with 53 significant
bits, ties to even; every operation rounds its exact result once by it.
-/

namespace TokenAuthority

/-- A number of the binary64 format. -/
inductive Binary64 where
  /-- A magnitude in units of 2^-1074, with a sign that also zero carries. -/
  | finite (negative : Bool) (units : Nat)
  | infinite (negative : Bool)
  /-- The result that is no number; its sign shows in the interchange form only. -/
  | notANumber (negative : Bool)
deriving DecidableEq, Repr, Inhabited

namespace Binary64

def one : Nat := Nat.pow 2 1074

def unitsLimit : Nat := Nat.pow 2 (1024 + 1074)

/-- The natural nearest to a quotient; a tie goes to the even neighbour. -/
def roundHalfEven (numerator denominator : Nat) : Nat :=
  let quotient := numerator / denominator
  let twiceRest := 2 * (numerator % denominator)
  if twiceRest < denominator then quotient
  else if denominator < twiceRest then quotient + 1
  else if quotient % 2 = 0 then quotient
  else quotient + 1

/-- The number of low bits that a magnitude of this size gives up to keep 53 significant ones. -/
def droppedBits (units : Nat) : Nat :=
  units.log2 - 52

/-- The magnitude of at most 53 significant bits nearest to a quotient, both in units. -/
def roundUnits (numerator denominator : Nat) : Nat :=
  let scale := Nat.pow 2 (droppedBits (numerator / denominator))
  roundHalfEven numerator (denominator * scale) * scale

def ofUnits (negative : Bool) (units : Nat) : Binary64 :=
  if units < unitsLimit then .finite negative units else .infinite negative

def ofQuotient (negative : Bool) (numerator denominator : Nat) : Binary64 :=
  ofUnits negative (roundUnits (numerator * one) denominator)

def ofRatio (numerator : Int) (denominator : Nat) : Binary64 :=
  ofQuotient (decide (numerator < 0)) numerator.natAbs denominator

def ofInt (value : Int) : Binary64 :=
  ofRatio value 1

def signedUnits (negative : Bool) (units : Nat) : Int :=
  if negative then -(units : Int) else units

/-- The number nearest to a signed count of units; an exact zero is positive. -/
def ofSignedUnits (units : Int) : Binary64 :=
  ofUnits (decide (units < 0)) (roundUnits units.natAbs 1)

def negate : Binary64 → Binary64
  | .finite negative units => .finite (!negative) units
  | .infinite negative => .infinite (!negative)
  | .notANumber negative => .notANumber (!negative)

def add : Binary64 → Binary64 → Binary64
  | .finite leftNegative left, .finite rightNegative right =>
      if left = 0 ∧ right = 0 then .finite (leftNegative && rightNegative) 0
      else ofSignedUnits (signedUnits leftNegative left + signedUnits rightNegative right)
  | .notANumber negative, _ => .notANumber negative
  | _, .notANumber negative => .notANumber negative
  | .infinite leftNegative, .infinite rightNegative =>
      if leftNegative = rightNegative then .infinite leftNegative else .notANumber false
  | .infinite negative, .finite _ _ => .infinite negative
  | .finite _ _, .infinite negative => .infinite negative

def sub (left right : Binary64) : Binary64 :=
  left.add right.negate

/-- The rounded product of a finite number with a natural; other numbers stay as they are. -/
def scale (factor : Nat) : Binary64 → Binary64
  | .finite negative units => ofUnits negative (roundUnits (units * factor) 1)
  | other => other

def divide (divisor : Nat) : Binary64 → Binary64
  | .finite negative units => ofUnits negative (roundUnits units divisor)
  | other => other

/-- Whether the left number is at most the right one; never so when either is not a number. -/
def atMost : Binary64 → Binary64 → Bool
  | .finite leftNegative left, .finite rightNegative right =>
      decide (signedUnits leftNegative left ≤ signedUnits rightNegative right)
  | .notANumber _, _ => false
  | _, .notANumber _ => false
  | .infinite true, _ => true
  | _, .infinite false => true
  | .infinite false, .finite _ _ => false
  | .infinite false, .infinite true => false
  | .finite _ _, .infinite true => false

def isPositive : Binary64 → Bool
  | .finite negative units => !negative && units != 0
  | .infinite negative => !negative
  | .notANumber _ => false

def isZero : Binary64 → Bool
  | .finite _ units => units == 0
  | _ => false

def truncate? : Binary64 → Option Int
  | .finite negative units => some (signedUnits negative (units / one))
  | _ => none

def nearest? : Binary64 → Option Int
  | .finite negative units => some (signedUnits negative (roundHalfEven units one))
  | _ => none

def magnitudeBits (units : Nat) : Nat :=
  droppedBits units * 0x10_0000_0000_0000 + units / Nat.pow 2 (droppedBits units)

def signBit (negative : Bool) : Nat :=
  if negative then 0x8000_0000_0000_0000 else 0

/-- The interchange form: sign, exponent and fraction as one natural below 2^64. -/
def toBits : Binary64 → Nat
  | .finite negative units => signBit negative + magnitudeBits units
  | .infinite negative => signBit negative + 0x7ff0_0000_0000_0000
  | .notANumber negative => signBit negative + 0x7ff8_0000_0000_0000

end Binary64

end TokenAuthority
