import TokenAuthority.Number.Binary64
import TokenAuthority.Number.Numeral

/-!
Reading decimals as binary64 numbers.

`ofDecimal` takes a natural times a power of ten to the nearest number.  Powers far outside the
format are decided from the count of digits, so that no exponent makes the arithmetic large.
`parse?` reads what may stand for a number in a setting: padded, signed, with digits of any script
that single underscores may group, or a word for infinity or for no number.
-/

namespace TokenAuthority.Binary64

/-- The number nearest to a natural of the given count of digits times a power of ten. -/
def ofDecimal (negative : Bool) (value digitCount : Nat) (exponent : Int) : Binary64 :=
  if value = 0 then .finite negative 0
  else if 310 < exponent then .infinite negative
  else if (digitCount : Int) + exponent < -330 then .finite negative 0
  else if 0 ≤ exponent then ofQuotient negative (value * Nat.pow 10 exponent.toNat) 1
  else ofQuotient negative value (Nat.pow 10 (-exponent).toNat)

structure DecimalParts where
  whole : List Char
  fraction : List Char
  exponent : Int

def DecimalParts.number (parts : DecimalParts) (negative : Bool) : Binary64 :=
  let digits := (parts.whole ++ parts.fraction).dropWhile (· == '0')
  ofDecimal negative (Numeral.digitsValue digits) digits.length
    (parts.exponent - parts.fraction.length)

def readExponent? : List Char → Option Int
  | [] => some 0
  | mark :: rest =>
      if mark = 'e' ∨ mark = 'E' then
        let (negative, digits) := Numeral.splitSign rest
        if !digits.isEmpty && digits.all Char.isDigit then
          some (Numeral.signed negative (Numeral.digitsValue digits))
        else none
      else none

def readDecimal? (characters : List Char) : Option DecimalParts :=
  let whole := characters.takeWhile Char.isDigit
  let rest := characters.dropWhile Char.isDigit
  match rest with
  | '.' :: rest =>
      let fraction := rest.takeWhile Char.isDigit
      if whole.isEmpty && fraction.isEmpty then none
      else (readExponent? (rest.dropWhile Char.isDigit)).map (⟨whole, fraction, ·⟩)
  | rest => if whole.isEmpty then none else (readExponent? rest).map (⟨whole, [], ·⟩)

/-- Drop underscores that stand between two digits; any other underscore is refused. -/
def dropGrouping? : (afterDigit : Bool) → List Char → Option (List Char)
  | _, [] => some []
  | afterDigit, '_' :: rest =>
      match rest with
      | next :: _ => if afterDigit && next.isDigit then dropGrouping? false rest else none
      | [] => none
  | _, character :: rest => (dropGrouping? character.isDigit rest).map (character :: ·)

def ofWord? (negative : Bool) (word : String) : Option Binary64 :=
  if word = "inf" ∨ word = "infinity" then some (.infinite negative)
  else if word = "nan" then some (.notANumber negative)
  else none

def parse? (text : String) : Option Binary64 := do
  let characters ← dropGrouping? false (← Numeral.core? text)
  let (negative, characters) := Numeral.splitSign characters
  match ofWord? negative (Text.lowerAscii (String.ofList characters)) with
  | some number => return number
  | none => return (← readDecimal? characters).number negative

end TokenAuthority.Binary64
