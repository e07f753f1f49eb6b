import TokenAuthority.Json.Basic
import TokenAuthority.Number.Numeral

/-!
Values as integers.

A number stands for its integer part, a truth value for one or zero, and a text for the decimal
numeral that it holds.  A value that stands for no integer is told apart by its kind, by what it
holds, or by its size.
-/

namespace TokenAuthority

/-- Why a value is not converted. -/
inductive ConversionFault where
  | wrongKind
  /-- Values of this kind are converted, but not this one. -/
  | badValue
  /-- The value is a number, but too large to be converted. -/
  | outOfRange
deriving DecidableEq, Repr

def Json.toInteger : Json → Except ConversionFault Int
  | .int value => .ok value
  | .bool value => .ok (if value then 1 else 0)
  | .float (.infinite _) => .error .outOfRange
  | .float value => value.truncate?.elim (.error .badValue) .ok
  | .text content => (content.string?.bind (Numeral.parse? 10)).elim (.error .badValue) .ok
  | _ => .error .wrongKind

end TokenAuthority
