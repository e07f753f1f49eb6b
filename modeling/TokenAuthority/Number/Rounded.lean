import TokenAuthority.Number.Shortest

/-!
Decimals of a chosen precision.

A magnitude is taken to the nearest multiple of a power of ten, ties to even.  The power is given
by a count of places behind the point, or by a count of places behind the first digit.
-/

namespace TokenAuthority.Binary64

def padDigits (count : Nat) (digits : List Char) : List Char :=
  List.replicate (count - digits.length) '0' ++ digits

def roundedAt (units : Nat) (exponent : Int) : Nat :=
  let (numerator, denominator) := scaleByTen 1 (-exponent)
  roundHalfEven (units * numerator) (one * denominator)

structure PointedDigits where
  whole : List Char
  fraction : List Char
deriving DecidableEq, Repr

def fixedDigits (units places : Nat) : PointedDigits :=
  let digits := padDigits (places + 1) (Nat.toDigits 10 (roundedAt units (-(places : Int))))
  ⟨digits.take (digits.length - places), digits.drop (digits.length - places)⟩

/-- A magnitude with one digit before the point and a count of places behind it, and the power of
ten to multiply by. -/
def scientificDigits (units places : Nat) : PointedDigits × Int :=
  if units = 0 then (⟨['0'], List.replicate places '0'⟩, 0)
  else
    let exponent := pointOf units - 1
    let digits := Nat.toDigits 10 (roundedAt units (exponent - (places : Int)))
    (⟨digits.take 1, (digits.drop 1).take places⟩, exponent + (digits.length - 1 - places : Nat))

end TokenAuthority.Binary64
