import TokenAuthority.Number.Modular
import TokenAuthority.Octets.Basic

/-!
Elliptic curves over a prime field.

A curve is the solutions of `y² = x³ + linear · x + constant` modulo a prime, with a point at
infinity; all its points are multiples of one base point.  The two points of one abscissa differ in
the parity of their ordinates, so that abscissa and parity tell a point.
-/

namespace TokenAuthority

/-- A curve, given by its equation, its base point and the number of its points. -/
structure Curve where
  identifier : Octets
  prime : Nat
  linear : Nat
  constant : Nat
  baseX : Nat
  baseY : Nat
  order : Nat
deriving DecidableEq, Repr

namespace Curve

def octetLength (bound : Nat) : Nat :=
  bound.log2 / 8 + 1

def fieldLength (curve : Curve) : Nat :=
  octetLength curve.prime

def scalarLength (curve : Curve) : Nat :=
  octetLength curve.order

def ordinateSquare (curve : Curve) (x : Nat) : Nat :=
  (x * x * x + curve.linear * x + curve.constant) % curve.prime

/-- Whether a residue is zero or the square of another; the residues that are not squares have
minus one as their power to half of the prime. -/
def isSquare (curve : Curve) (residue : Nat) : Bool :=
  Modular.power residue ((curve.prime - 1) / 2) curve.prime ≤ 1

structure Point where
  x : Nat
  hasOddOrdinate : Bool
deriving DecidableEq, Repr

def pointOfCoordinates? (curve : Curve) (x y : Nat) : Option Point :=
  if x < curve.prime ∧ y < curve.prime ∧ y * y % curve.prime = curve.ordinateSquare x then
    some ⟨x, y % 2 == 1⟩
  else none

/-- The point of an abscissa and a parity, if there is one; a zero ordinate is even. -/
def pointOfAbscissa? (curve : Curve) (x : Nat) (hasOddOrdinate : Bool) : Option Point :=
  let square := curve.ordinateSquare x
  if x < curve.prime ∧ curve.isSquare square ∧ ¬(square = 0 ∧ hasOddOrdinate) then
    some ⟨x, hasOddOrdinate⟩
  else none

/-- Read a point: a leading octet of 2 or 3 tells the parity and stands before the abscissa alone, 4
stands before both coordinates, and 6 or 7 before both coordinates tells the parity as well. -/
def readPoint? (curve : Curve) : Octets → Option Point
  | [] => none
  | form :: octets =>
      let length := curve.fieldLength
      let x := Octets.toNat (octets.take length)
      let y := Octets.toNat (octets.drop length)
      let isOdd := form % 2 == 1
      if form = 2 ∨ form = 3 then
        if octets.length = length then curve.pointOfAbscissa? x isOdd else none
      else if form = 4 ∨ form = 6 ∨ form = 7 then
        if octets.length = 2 * length ∧ (form = 4 ∨ (y % 2 == 1) = isOdd) then
          curve.pointOfCoordinates? x y
        else none
      else none

def baseOctets (curve : Curve) : Octets :=
  4 :: (Octets.ofNat curve.fieldLength curve.baseX ++ Octets.ofNat curve.fieldLength curve.baseY)

/-- A point as a triple: the abscissa is the first number by the square of the third, the ordinate
the second by its cube, and the point at infinity has zero as the third. -/
structure Triple where
  x : Int
  y : Int
  z : Int
deriving DecidableEq, Repr

def infinity : Triple := ⟨1, 1, 0⟩

def double (curve : Curve) (point : Triple) : Triple :=
  let modulus : Int := curve.prime
  let ySquare := point.y * point.y % modulus
  let zSquare := point.z * point.z % modulus
  let product := 4 * point.x * ySquare % modulus
  let tangent := (3 * point.x * point.x + curve.linear * (zSquare * zSquare % modulus)) % modulus
  let x := (tangent * tangent - 2 * product) % modulus
  ⟨x, (tangent * (product - x) - 8 * ySquare * ySquare) % modulus, 2 * point.y * point.z % modulus⟩

def addBase (curve : Curve) (point : Triple) : Triple :=
  let modulus : Int := curve.prime
  let zSquare := point.z * point.z % modulus
  let run := (curve.baseX * zSquare - point.x) % modulus
  let rise := (curve.baseY * (zSquare * point.z % modulus) - point.y) % modulus
  if point.z = 0 then ⟨curve.baseX, curve.baseY, 1⟩
  else if run = 0 then if rise = 0 then curve.double point else infinity
  else
    let runSquare := run * run % modulus
    let runCube := run * runSquare % modulus
    let product := point.x * runSquare % modulus
    let x := (rise * rise - runCube - 2 * product) % modulus
    ⟨x, (rise * (product - x) - point.y * runCube) % modulus, point.z * run % modulus⟩

/-- The multiple of the base point by the lowest bits of a natural. -/
def multiply (curve : Curve) : (bits : Nat) → (scalar : Nat) → Triple
  | 0, _ => infinity
  | bits + 1, scalar =>
      let doubled := curve.double (curve.multiply bits (scalar / 2))
      if scalar % 2 = 1 then curve.addBase doubled else doubled

def Triple.point? (curve : Curve) (triple : Triple) : Option Point :=
  if triple.z = 0 then none
  else
    let modulus : Int := curve.prime
    let inverse : Int := Modular.power triple.z.toNat (curve.prime - 2) curve.prime
    let inverseSquare := inverse * inverse % modulus
    let y := triple.y * (inverseSquare * inverse % modulus) % modulus
    some ⟨(triple.x * inverseSquare % modulus).toNat, y % 2 == 1⟩

/-- The public point of a private multiplier, which must be below the number of points and not
zero. -/
def publicPoint? (curve : Curve) (scalar : Nat) : Option Point :=
  if 0 < scalar ∧ scalar < curve.order then
    (curve.multiply (scalar.log2 + 1) scalar).point? curve
  else none

end Curve

end TokenAuthority
