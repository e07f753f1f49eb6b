import TokenAuthority.Text.Blank
import TokenAuthority.Text.Digit

/-!
Integers written by hand.

A numeral may be padded with blanks, signed, marked by its radix and grouped with single
underscores, and its decimal digits may be of any script.  `parse?` reads a numeral of a fixed
radix, `parseMarked?` one whose radix is told by its mark and is ten without one.
-/

namespace TokenAuthority.Numeral

/-- The most digits that a numeral may have when its radix is no power of two. -/
def digitLimit : Nat := 4300

/-- Write a character of a numeral in ASCII: digits of any script and blanks have an ASCII form, and
no other character beyond ASCII has a place in a numeral. -/
def normalize? (character : Char) : Option Char :=
  if character.toNat < 0x7f then
    some (if Text.isSpace character then ' ' else character)
  else if Text.isBlank character then some ' '
  else (Text.decimalDigit? character).map fun value => Char.ofNat ('0'.toNat + value)

def core? (text : String) : Option (List Char) :=
  (text.toList.mapM normalize?).map (Text.stripWhile (· == ' '))

/-- Split off a sign; the first part tells whether it is a minus. -/
def splitSign : List Char → Bool × List Char
  | '-' :: rest => (true, rest)
  | '+' :: rest => (false, rest)
  | characters => (false, characters)

def digitsValue (digits : List Char) : Nat :=
  digits.foldl (fun value digit => value * 10 + (digit.toNat - '0'.toNat)) 0

def digitBelow? (radix : Nat) (character : Char) : Option Nat :=
  (Text.radixDigit? character).filter (· < radix)

/-- Read digits that single underscores may group, from a value read so far; the flag tells whether
the character before was a digit.  The count of digits comes with the value. -/
def readDigits? (radix : Nat) :
    (afterDigit : Bool) → (value count : Nat) → List Char → Option (Nat × Nat)
  | afterDigit, value, count, [] => if afterDigit then some (value, count) else none
  | afterDigit, value, count, '_' :: rest =>
      if afterDigit then readDigits? radix false value count rest else none
  | _, value, count, character :: rest =>
      match digitBelow? radix character with
      | some digit => readDigits? radix true (value * radix + digit) (count + 1) rest
      | none => none

def magnitude? (radix : Nat) (characters : List Char) : Option Nat :=
  match readDigits? radix false 0 0 characters with
  | some (value, count) =>
      if digitLimit < count ∧ radix ∉ [2, 4, 8, 16, 32] then none else some value
  | none => none

def splitMark : List Char → Option (Nat × List Char)
  | '0' :: 'x' :: rest => some (16, rest)
  | '0' :: 'X' :: rest => some (16, rest)
  | '0' :: 'o' :: rest => some (8, rest)
  | '0' :: 'O' :: rest => some (8, rest)
  | '0' :: 'b' :: rest => some (2, rest)
  | '0' :: 'B' :: rest => some (2, rest)
  | _ => none

def dropUnderscore : List Char → List Char
  | '_' :: rest => rest
  | characters => characters

def magnitudeAfterMark? (radix : Nat) (characters : List Char) : Option Nat :=
  match splitMark characters with
  | some (marked, rest) =>
      if marked = radix then magnitude? radix (dropUnderscore rest) else magnitude? radix characters
  | none => magnitude? radix characters

/-- The value of an unsigned numeral whose mark tells the radix.  Without a mark it is decimal, and
only zero may begin with the digit zero. -/
def markedMagnitude? (characters : List Char) : Option Nat :=
  match splitMark characters with
  | some (radix, rest) => magnitude? radix (dropUnderscore rest)
  | none =>
      match characters, magnitude? 10 characters with
      | '0' :: _, some 0 => some 0
      | '0' :: _, _ => none
      | _, value => value

def signed (negative : Bool) (magnitude : Nat) : Int :=
  if negative then -(magnitude : Int) else magnitude

def parseSigned? (readMagnitude : List Char → Option Nat) (text : String) : Option Int := do
  let (negative, characters) := splitSign (← core? text)
  return signed negative (← readMagnitude characters)

def parse? (radix : Nat) (text : String) : Option Int :=
  parseSigned? (magnitudeAfterMark? radix) text

def parseMarked? (text : String) : Option Int :=
  parseSigned? markedMagnitude? text

end TokenAuthority.Numeral
