import TokenAuthority.Text.CodePoint
import TokenAuthority.Text.Printable

/-!
Quoted literals of texts and octets.

A literal stands between single quotes, or between double quotes when the text holds a single quote
and no double one.  The quote in use and the backslash are escaped, as are surrogates and the
characters that are not printable; tabs and line ends have short escapes.
-/

namespace TokenAuthority.Text

def hexDigit (value : Nat) : Char :=
  if value < 10 then Char.ofNat (48 + value) else Char.ofNat (87 + value)

/-- The lowest hexadecimal digits of a number, as many as asked for. -/
def hexDigits : (count : Nat) → (value : Nat) → List Char
  | 0, _ => []
  | count + 1, value => hexDigits count (value / 16) ++ [hexDigit (value % 16)]

/-- Write a character by its code point, with the shortest of the three forms that hold it. -/
def codePointEscape (code : Nat) : List Char :=
  if code < 0x100 then '\\' :: 'x' :: hexDigits 2 code
  else if code < 0x10000 then '\\' :: 'u' :: hexDigits 4 code
  else '\\' :: 'U' :: hexDigits 8 code

def literalCharacter (quote character : Char) (plain : Bool) : List Char :=
  if character = quote ∨ character = '\\' then ['\\', character]
  else if character = '\n' then ['\\', 'n']
  else if character = '\r' then ['\\', 'r']
  else if character = '\t' then ['\\', 't']
  else if plain then [character]
  else codePointEscape character.toNat

def literalQuote (characters : List Char) : Char :=
  if characters.contains '\'' && !characters.contains '"' then '"' else '\''

def literalCodePoint (quote : Char) (code : CodePoint) : List Char :=
  match code with
  | .char character => literalCharacter quote character (isPrintable character)
  | surrogate => codePointEscape surrogate.value

def literal (text : Text) : String :=
  let quote := literalQuote (text.filterMap CodePoint.character?)
  String.ofList (quote :: text.flatMap (literalCodePoint quote) ++ [quote])

/-- The quoted literal of octets after a `b`; only printable ASCII stands for itself. -/
def octetsLiteral (octets : List UInt8) : String :=
  let characters := octets.map fun octet => Char.ofNat octet.toNat
  let quote := literalQuote characters
  String.ofList
    ('b' :: quote ::
      characters.flatMap (fun character =>
        literalCharacter quote character (0x20 ≤ character.toNat && character.toNat < 0x7f)) ++
      [quote])

end TokenAuthority.Text
