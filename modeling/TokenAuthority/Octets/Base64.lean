import TokenAuthority.Octets.Basic

/-!
Base64 and base64url.

Three octets make four characters of six bits each; the two alphabets differ in their last two
characters.  `encodeUrl` writes without padding.  Decoding is canonical: the bits that a short last
group leaves over must be zero.
-/

namespace TokenAuthority.Base64

structure Alphabet where
  sixtyTwo : Char
  sixtyThree : Char

def standard : Alphabet := ⟨'+', '/'⟩

def urlSafe : Alphabet := ⟨'-', '_'⟩

def Alphabet.character (alphabet : Alphabet) (value : Nat) : Char :=
  if value < 26 then Char.ofNat (65 + value)
  else if value < 52 then Char.ofNat (71 + value)
  else if value < 62 then Char.ofNat (value - 4)
  else if value = 62 then alphabet.sixtyTwo
  else alphabet.sixtyThree

def Alphabet.value? (alphabet : Alphabet) (character : Char) : Option Nat :=
  let code := character.toNat
  if 65 ≤ code ∧ code < 91 then some (code - 65)
  else if 97 ≤ code ∧ code < 123 then some (code - 71)
  else if 48 ≤ code ∧ code < 58 then some (code + 4)
  else if character = alphabet.sixtyTwo then some 62
  else if character = alphabet.sixtyThree then some 63
  else none

/-- The six-bit values of octets; a short last group is filled with zero bits. -/
def sextets : Octets → List Nat
  | [] => []
  | [first] => [first.toNat / 4, first.toNat % 4 * 16]
  | [first, second] =>
      [first.toNat / 4, first.toNat % 4 * 16 + second.toNat / 16, second.toNat % 16 * 4]
  | first :: second :: third :: rest =>
      first.toNat / 4 :: (first.toNat % 4 * 16 + second.toNat / 16) ::
        (second.toNat % 16 * 4 + third.toNat / 64) :: third.toNat % 64 :: sextets rest

/-- The octets of six-bit values, whose last group must not hold bits that no octet takes. -/
def octets? : List Nat → Option Octets
  | [] => some []
  | [_] => none
  | [first, second] =>
      if second % 16 = 0 then some [UInt8.ofNat (first * 4 + second / 16)] else none
  | [first, second, third] =>
      if third % 4 = 0 then
        some [UInt8.ofNat (first * 4 + second / 16), UInt8.ofNat (second % 16 * 16 + third / 4)]
      else none
  | first :: second :: third :: fourth :: rest =>
      (octets? rest).map fun octets =>
        UInt8.ofNat (first * 4 + second / 16) :: UInt8.ofNat (second % 16 * 16 + third / 4) ::
          UInt8.ofNat (third % 4 * 64 + fourth) :: octets

def encodeUrl (octets : Octets) : List Char :=
  (sextets octets).map urlSafe.character

/-- Take the padding from the end of a text; it must fill the last group of four. -/
def dropPadding? (characters : List Char) : Option (List Char) :=
  let body := (characters.reverse.dropWhile (· == '=')).reverse
  let padding := characters.length - body.length
  if padding = 0 then some body
  else if padding ≤ 2 ∧ characters.length % 4 = 0 then some body
  else none

def decode? (alphabet : Alphabet) (characters : List Char) : Option Octets := do
  octets? (← (← dropPadding? characters).mapM alphabet.value?)

end TokenAuthority.Base64
