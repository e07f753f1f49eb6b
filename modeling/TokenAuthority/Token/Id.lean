import TokenAuthority.Number.Numeral
import TokenAuthority.Text.Literal
import TokenAuthority.Json.Basic

/-!
Token identifiers.

An identifier is a number of 128 bits.  Its canonical text is the number in lower-case
hexadecimal, in groups of 8, 4, 4, 4 and 12 digits.  `parse?` is more lenient: it ignores marks,
braces and dashes, and reads what remains as a hexadecimal numeral of 32 characters.
-/

namespace TokenAuthority

def tokenIdLimit : Nat := 0x1_0000_0000_0000_0000_0000_0000_0000_0000

/-- An identifier of 128 bits. -/
structure TokenId where
  value : Nat
  value_lt : value < tokenIdLimit
deriving DecidableEq, Repr

namespace TokenId

def characters (value : Nat) : List Char :=
  let digits := Text.hexDigits 32 value
  digits.take 8 ++ '-' :: ((digits.drop 8).take 4 ++ '-' :: ((digits.drop 12).take 4 ++
    '-' :: ((digits.drop 16).take 4 ++ '-' :: digits.drop 20)))

@[irreducible]
def text (id : TokenId) : Text :=
  .ofChars (characters id.value)

/-- Remove every occurrence of a mark, from left to right; `skip` characters belong to one that was
already found. -/
def removeLoop (mark : List Char) : (skip : Nat) → List Char → List Char
  | _, [] => []
  | skip + 1, _ :: rest => removeLoop mark skip rest
  | 0, character :: rest =>
      if mark.isPrefixOf (character :: rest) then removeLoop mark (mark.length - 1) rest
      else character :: removeLoop mark 0 rest

def spelling (text : String) : List Char :=
  let unmarked := removeLoop "uuid:".toList 0 (removeLoop "urn:".toList 0 text.toList)
  let isBrace := fun character => character == '{' || character == '}'
  (Text.stripWhile isBrace unmarked).filter (· ≠ '-')

def ofInt? (value : Int) : Option TokenId :=
  if bounded : 0 ≤ value ∧ value.toNat < tokenIdLimit then some ⟨value.toNat, bounded.2⟩
  else none

def parse? (text : String) : Option TokenId :=
  let spelling := spelling text
  if spelling.length = 32 then (Numeral.parse? 16 (String.ofList spelling)).bind ofInt? else none

/-- The identifier that a text spells; one that holds surrogates spells none. -/
def ofText? (text : Text) : Option TokenId :=
  text.string?.bind parse?

def isCanonical (text : Text) : Bool :=
  match ofText? text with
  | some id => id.text == text
  | none => false

def isCanonicalValue : Json → Bool
  | .text text => isCanonical text
  | _ => false

/-- The identifier with a given number in its last group, under fixed other groups. -/
def numbered (number : Nat) : TokenId :=
  ⟨0x4000_8000_0000_0000_0000 + number % 0x1_0000_0000_0000, by unfold tokenIdLimit; omega⟩

end TokenId

end TokenAuthority
