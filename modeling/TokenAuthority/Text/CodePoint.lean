/-!
Texts as sequences of code points.

A code point is a character or a surrogate, which stands for no character.  In UTF-16 a high
surrogate with a low one right after it are the two code units of one character; in a text they are
two code points all the same.
-/

namespace TokenAuthority

namespace Text

/-- A code point.  A surrogate is told by its place among the high or the low ones. -/
inductive CodePoint where
  | char (character : Char)
  | high (index : Fin 0x400)
  | low (index : Fin 0x400)
deriving DecidableEq, Repr

namespace CodePoint

def value : CodePoint → Nat
  | .char character => character.toNat
  | .high index => 0xd800 + index
  | .low index => 0xdc00 + index

/-- The code point of a number. -/
def ofNat (value : Nat) : CodePoint :=
  if 0xd800 ≤ value ∧ value < 0xdc00 then .high (Fin.ofNat 0x400 (value - 0xd800))
  else if 0xdc00 ≤ value ∧ value < 0xe000 then .low (Fin.ofNat 0x400 (value - 0xdc00))
  else .char (Char.ofNat value)

/-- The character of a code point; a surrogate has none. -/
def character? : CodePoint → Option Char
  | .char character => some character
  | .high _ => none
  | .low _ => none

/-- The character whose code units are a high and a low surrogate. -/
def ofPair (high low : Fin 0x400) : Char :=
  Char.ofNat (0x10000 + high * 0x400 + low)

end CodePoint

end Text

/-- A text: code points in a row, surrogates among them. -/
abbrev Text := List Text.CodePoint

namespace Text

def ofChars (characters : List Char) : Text :=
  characters.map .char

def ofString (text : String) : Text :=
  ofChars text.toList

instance : Coe String Text :=
  ⟨ofString⟩

/-- The characters of a text, if it holds no surrogates. -/
def characters? (text : Text) : Option (List Char) :=
  text.mapM CodePoint.character?

def string? (text : Text) : Option String :=
  text.characters?.map String.ofList

/-- Whether a text can be encoded, which takes that it holds no surrogates. -/
def isEncodable (text : Text) : Bool :=
  text.all fun code => code.character?.isSome

/-- Whether a text is not after another one in the order of code points. -/
def isAtMost (left right : Text) : Bool :=
  !(right.map CodePoint.value).lex (left.map CodePoint.value) Nat.blt

/-- Join each high surrogate to the low one right after it. -/
def join : Text → Text
  | .high high :: .low low :: rest => .char (CodePoint.ofPair high low) :: join rest
  | code :: rest => code :: join rest
  | [] => []

/-- Split off the characters of a kind at the front of a text. -/
def splitWhile (keep : Char → Bool) : Text → List Char × Text
  | .char character :: rest =>
      if keep character then
        let (front, rest) := splitWhile keep rest
        (character :: front, rest)
      else ([], .char character :: rest)
  | rest => ([], rest)

end Text

end TokenAuthority
