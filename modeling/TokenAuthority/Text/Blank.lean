/-!
Blank characters, the trimming of texts, and the case of letters.

A blank is a character of a separating category or of a separating bidirectional class.  White space
is less: the four information separators of ASCII are blanks, but no white space.  Numerals are
padded with white space alone.
-/

namespace TokenAuthority.Text

def isBlank (character : Char) : Bool :=
  let code := character.toNat
  (0x09 ≤ code && code ≤ 0x0d) || (0x1c ≤ code && code ≤ 0x20) || code == 0x85 || code == 0xa0 ||
    code == 0x1680 || (0x2000 ≤ code && code ≤ 0x200a) || code == 0x2028 || code == 0x2029 ||
    code == 0x202f || code == 0x205f || code == 0x3000

def isInformationSeparator (character : Char) : Bool :=
  0x1c ≤ character.toNat && character.toNat ≤ 0x1f

def isSpace (character : Char) : Bool :=
  isBlank character && !isInformationSeparator character

def stripWhile (drop : Char → Bool) (characters : List Char) : List Char :=
  ((characters.dropWhile drop).reverse.dropWhile drop).reverse

def trim (text : String) : String :=
  String.ofList (stripWhile isBlank text.toList)

def lowerAscii (text : String) : String :=
  text.map fun character =>
    if 'A' ≤ character ∧ character ≤ 'Z' then Char.ofNat (character.toNat + 32) else character

/-- The capital of a letter, as far as words in ASCII have it: of the ASCII letters, and of the
dotless i and the long s, whose capitals are such letters. -/
def capital (character : Char) : Char :=
  if 'a' ≤ character ∧ character ≤ 'z' then Char.ofNat (character.toNat - 32)
  else if character = 'ı' then 'I'
  else if character = 'ſ' then 'S'
  else character

end TokenAuthority.Text
