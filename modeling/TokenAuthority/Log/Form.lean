import TokenAuthority.Number.Rounded
import TokenAuthority.Text.CodePoint

/-!
Forms in which a message writes texts and numbers.

A form is wide enough at least, aligned to the right unless it says otherwise.  Numbers may show a
plus sign or a blank before them, fill their width with zeros, and mark their radix or keep a
point that nothing follows.
-/

namespace TokenAuthority.Log

structure Form where
  flags : List Char
  /-- The least count of characters; a negative one aligns to the left. -/
  width : Int
  precision : Option Nat
deriving DecidableEq, Repr

namespace Form

def isFlag (character : Char) : Bool :=
  character ∈ ['-', '+', ' ', '#', '0']

def isLeftAligned (form : Form) : Bool :=
  form.flags.contains '-' || form.width < 0

def isExplicit (form : Form) : Bool :=
  form.flags.contains '#'

def fill {Item : Type} (form : Form) (blank : Item) (items : List Item) : List Item :=
  let padding := List.replicate (form.width.natAbs - items.length) blank
  if form.isLeftAligned then items ++ padding else padding ++ items

def text (form : Form) (content : Text) : Text :=
  form.fill (.char ' ') (form.precision.elim content content.take)

def signed (form : Form) (negative : Bool) (mark digits : List Char) : List Char :=
  let sign :=
    if negative then ['-']
    else if form.flags.contains '+' then ['+']
    else if form.flags.contains ' ' then [' ']
    else []
  let zeros :=
    if form.flags.contains '0' && !form.isLeftAligned then
      List.replicate (form.width.natAbs - (sign ++ mark ++ digits).length) '0'
    else []
  form.fill ' ' (sign ++ mark ++ zeros ++ digits)

/-- Write an integer in a radix, with at least as many digits as the precision tells. -/
def integer (form : Form) (radix : Nat) (mark : List Char) (value : Int) : List Char :=
  form.signed (decide (value < 0)) (if form.isExplicit then mark else [])
    (Binary64.padDigits (form.precision.getD 0) (Nat.toDigits radix value.natAbs))

/-- Write digits with their point; a point that nothing follows is left out. -/
def pointed (form : Form) (digits : Binary64.PointedDigits) : List Char :=
  if digits.fraction.isEmpty && !form.isExplicit then digits.whole
  else digits.whole ++ '.' :: digits.fraction

def exponent (value : Int) : List Char :=
  'e' :: (if value < 0 then '-' else '+') :: Binary64.exponentDigits value.natAbs

def trimmed (form : Form) (digits : Binary64.PointedDigits) : Binary64.PointedDigits :=
  if form.isExplicit then digits
  else { digits with fraction := Binary64.dropTrailingZeros digits.fraction }

def places (form : Form) : Nat :=
  form.precision.getD 6

def fixed (form : Form) (units : Nat) : List Char :=
  form.pointed (Binary64.fixedDigits units form.places)

def scientific (form : Form) (units : Nat) : List Char :=
  let (digits, power) := Binary64.scientificDigits units form.places
  form.pointed digits ++ exponent power

/-- The digits of a magnitude with a count of digits in all, and a power of ten only where the first
digit is far from the point. -/
def general (form : Form) (units : Nat) : List Char :=
  let count := max 1 form.places
  let (digits, power) := Binary64.scientificDigits units (count - 1)
  if -4 ≤ power ∧ power < count then
    form.pointed (form.trimmed (Binary64.fixedDigits units ((count : Int) - 1 - power).toNat))
  else form.pointed (form.trimmed digits) ++ exponent power

def number (form : Form) (digits : Nat → List Char) : Binary64 → List Char
  | .finite negative units => form.signed negative [] (digits units)
  | .infinite negative => form.signed negative [] ['i', 'n', 'f']
  | .notANumber _ => form.signed false [] ['n', 'a', 'n']

end Form

end TokenAuthority.Log
