import TokenAuthority.Number.Binary64

/-!
The shortest decimal text of a binary64 number.

Of the decimals that read back as the number, the text shows one with the fewest digits, and of
these one nearest to the number.  It is positional while the point stands no more than sixteen
places behind the first digit and no more than four before it, and scientific otherwise.
-/

namespace TokenAuthority.Binary64

/-- A finite decimal: the number 0.d₁d₂… times a power of ten. -/
structure Decimal where
  digits : List Char
  /-- The power of ten, that is, the place of the point behind the first digit. -/
  point : Int
deriving DecidableEq, Repr

def scaleByTen (value : Nat) (exponent : Int) : Nat × Nat :=
  if 0 ≤ exponent then (value * Nat.pow 10 exponent.toNat, 1)
  else (value, Nat.pow 10 (-exponent).toNat)

def unitsOfDecimal (value : Nat) (exponent : Int) : Nat :=
  let (numerator, denominator) := scaleByTen value exponent
  roundUnits (numerator * one) denominator

def belowPowerOfTen (units : Nat) (exponent : Int) : Bool :=
  let (numerator, denominator) := scaleByTen 1 exponent
  units * denominator < numerator * one

/-- The least power of ten above a positive magnitude: an estimate from its bits, then a search of
the few exponents around it. -/
def pointOf (units : Nat) : Int :=
  let estimate : Int := ((units.log2 : Int) - 1074) * 30103 / 100000
  let candidates := (List.range 5).map fun (offset : Nat) => estimate - 1 + (offset : Int)
  (candidates.find? (belowPowerOfTen units)).getD (estimate + 4)

/-- The decimals of a given count of digits next to a magnitude, nearest first. -/
def neighbours (units count : Nat) (point : Int) : List Nat :=
  let (numerator, denominator) := scaleByTen 1 ((count : Int) - point)
  let scaled := units * numerator
  let grid := one * denominator
  let lower := scaled / grid
  if roundHalfEven scaled grid = lower then [lower, lower + 1] else [lower + 1, lower]

/-- The shortest decimal of a positive magnitude, as digits and the exponent of the last one. -/
def shortestScaled (units : Nat) : Nat × Int :=
  let point := pointOf units
  let hit := (List.range 17).findSome? fun index =>
    let exponent := point - ((index + 1 : Nat) : Int)
    ((neighbours units (index + 1) point).find? fun candidate =>
      unitsOfDecimal candidate exponent == units).map fun candidate => (candidate, exponent)
  hit.getD (units * Nat.pow 5 1074, -1074)

def dropTrailingZeros (digits : List Char) : List Char :=
  (digits.reverse.dropWhile (· == '0')).reverse

def shortest (units : Nat) : Decimal :=
  if units = 0 then ⟨['0'], 1⟩
  else
    let (value, exponent) := shortestScaled units
    let digits := Nat.toDigits 10 value
    ⟨dropTrailingZeros digits, exponent + digits.length⟩

def exponentDigits (exponent : Nat) : List Char :=
  let digits := Nat.toDigits 10 exponent
  if digits.length < 2 then '0' :: digits else digits

def Decimal.characters (decimal : Decimal) : List Char :=
  let count : Int := decimal.digits.length
  if -4 < decimal.point ∧ decimal.point ≤ 16 then
    if decimal.point ≤ 0 then
      '0' :: '.' :: (List.replicate (-decimal.point).toNat '0' ++ decimal.digits)
    else if count ≤ decimal.point then
      decimal.digits ++ List.replicate (decimal.point - count).toNat '0' ++ ['.', '0']
    else
      decimal.digits.take decimal.point.toNat ++ '.' :: decimal.digits.drop decimal.point.toNat
  else
    let exponent := decimal.point - 1
    let fraction := decimal.digits.drop 1
    decimal.digits.take 1 ++ (if fraction.isEmpty then [] else '.' :: fraction) ++
      'e' :: (if exponent < 0 then '-' else '+') :: exponentDigits exponent.natAbs

structure SpecialTexts where
  infinity : String
  notANumber : String

def textWith (special : SpecialTexts) : Binary64 → String
  | .finite negative units =>
      String.ofList ((if negative then ['-'] else []) ++ (shortest units).characters)
  | .infinite negative => (if negative then "-" else "") ++ special.infinity
  | .notANumber _ => special.notANumber

def text (number : Binary64) : String :=
  number.textWith ⟨"inf", "nan"⟩

end TokenAuthority.Binary64
