import TokenAuthority.Json.Basic
import TokenAuthority.Number.Shortest
import TokenAuthority.Text.Literal

/-!
Writing JSON in ASCII.

Every code point outside the printable ASCII range is written by its UTF-16 code units, so that what
is written for a value is one line of printable ASCII.  The two layouts differ in the blanks after
separators alone.
-/

namespace TokenAuthority.Json

def unitEscape (unit : Nat) : List Char :=
  '\\' :: 'u' :: Text.hexDigits 4 unit

/-- Write a character by its code units: one in the basic plane, a surrogate pair beyond it. -/
def characterEscape (code : Nat) : List Char :=
  if code < 0x10000 then unitEscape code
  else
    unitEscape (0xd800 + (code - 0x10000) / 0x400) ++ unitEscape (0xdc00 + (code - 0x10000) % 0x400)

def writeCharacter (character : Char) : List Char :=
  if character = '"' then ['\\', '"']
  else if character = '\\' then ['\\', '\\']
  else if character = '\n' then ['\\', 'n']
  else if character = '\r' then ['\\', 'r']
  else if character = '\t' then ['\\', 't']
  else if character = '\x08' then ['\\', 'b']
  else if character = '\x0c' then ['\\', 'f']
  else if 0x20 ≤ character.toNat ∧ character.toNat < 0x7f then [character]
  else characterEscape character.toNat

/-- Write a code point: a character in its form, a surrogate by its code unit. -/
def writeCodePoint (code : Text.CodePoint) : List Char :=
  match code with
  | .char character => writeCharacter character
  | surrogate => unitEscape surrogate.value

def writeText (text : Text) : List Char :=
  '"' :: text.flatMap writeCodePoint ++ ['"']

def writeInt (value : Int) : List Char :=
  if value < 0 then '-' :: Nat.toDigits 10 value.natAbs else Nat.toDigits 10 value.natAbs

def specialTexts : Binary64.SpecialTexts := ⟨"Infinity", "NaN"⟩

/-- What stands between items and between a name and its value. -/
structure Layout where
  itemSeparator : List Char
  nameSeparator : List Char

namespace Layout

def compact : Layout := ⟨[','], [':']⟩

def spaced : Layout := ⟨[',', ' '], [':', ' ']⟩

end Layout

mutual

def write (layout : Layout) : Json → List Char
  | .null => ['n', 'u', 'l', 'l']
  | .bool true => ['t', 'r', 'u', 'e']
  | .bool false => ['f', 'a', 'l', 's', 'e']
  | .int value => writeInt value
  | .float value => (value.textWith specialTexts).toList
  | .text value => writeText value
  | .array [] => ['[', ']']
  | .array (item :: rest) => '[' :: write layout item ++ writeItems layout rest
  | .object [] => ['{', '}']
  | .object (member :: rest) => '{' :: writeMember layout member ++ writeMembers layout rest

def writeItems (layout : Layout) : List Json → List Char
  | [] => [']']
  | item :: rest => layout.itemSeparator ++ write layout item ++ writeItems layout rest

def writeMember (layout : Layout) : Text × Json → List Char
  | (name, value) => writeText name ++ layout.nameSeparator ++ write layout value

def writeMembers (layout : Layout) : List (Text × Json) → List Char
  | [] => ['}']
  | member :: rest => layout.itemSeparator ++ writeMember layout member ++ writeMembers layout rest

end

/-- A name with what was written for its value. -/
def writeField (layout : Layout) (field : Text × List Char) : List Char :=
  writeText field.1 ++ layout.nameSeparator ++ field.2

/-- Write an object from what was written for its values. -/
def writeFields (layout : Layout) : List (Text × List Char) → List Char
  | [] => ['{', '}']
  | field :: rest =>
      '{' :: writeField layout field ++
        rest.flatMap (fun next => layout.itemSeparator ++ writeField layout next) ++ ['}']

def compactText (value : Json) : String :=
  String.ofList (write .compact value)

def spacedText (value : Json) : String :=
  String.ofList (write .spaced value)

end TokenAuthority.Json
