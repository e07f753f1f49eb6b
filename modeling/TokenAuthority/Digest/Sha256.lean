import TokenAuthority.Octets.Basic

/-!
The SHA-256 digest.

A message is padded to whole blocks of 64 octets.  Each block is stretched to a schedule of 64
words, which are mixed one after another into eight working words; the digest is the sum of the
working words over all blocks.
-/

namespace TokenAuthority.Sha256

/-- The eight working words. -/
structure State where
  a : UInt32
  b : UInt32
  c : UInt32
  d : UInt32
  e : UInt32
  f : UInt32
  g : UInt32
  h : UInt32
deriving DecidableEq, Repr

def initial : State :=
  ⟨0x6a09e667, 0xbb67ae85, 0x3c6ef372, 0xa54ff53a,
   0x510e527f, 0x9b05688c, 0x1f83d9ab, 0x5be0cd19⟩

def roundConstants : List UInt32 :=
  [0x428a2f98, 0x71374491, 0xb5c0fbcf, 0xe9b5dba5, 0x3956c25b, 0x59f111f1, 0x923f82a4, 0xab1c5ed5,
   0xd807aa98, 0x12835b01, 0x243185be, 0x550c7dc3, 0x72be5d74, 0x80deb1fe, 0x9bdc06a7, 0xc19bf174,
   0xe49b69c1, 0xefbe4786, 0x0fc19dc6, 0x240ca1cc, 0x2de92c6f, 0x4a7484aa, 0x5cb0a9dc, 0x76f988da,
   0x983e5152, 0xa831c66d, 0xb00327c8, 0xbf597fc7, 0xc6e00bf3, 0xd5a79147, 0x06ca6351, 0x14292967,
   0x27b70a85, 0x2e1b2138, 0x4d2c6dfc, 0x53380d13, 0x650a7354, 0x766a0abb, 0x81c2c92e, 0x92722c85,
   0xa2bfe8a1, 0xa81a664b, 0xc24b8b70, 0xc76c51a3, 0xd192e819, 0xd6990624, 0xf40e3585, 0x106aa070,
   0x19a4c116, 0x1e376c08, 0x2748774c, 0x34b0bcb5, 0x391c0cb3, 0x4ed8aa4a, 0x5b9cca4f, 0x682e6ff3,
   0x748f82ee, 0x78a5636f, 0x84c87814, 0x8cc70208, 0x90befffa, 0xa4506ceb, 0xbef9a3f7, 0xc67178f2]

def rotate (word count : UInt32) : UInt32 :=
  (word >>> count) ||| (word <<< (32 - count))

def round (state : State) (constant word : UInt32) : State :=
  let sumE := rotate state.e 6 ^^^ rotate state.e 11 ^^^ rotate state.e 25
  let choice := (state.e &&& state.f) ^^^ (~~~state.e &&& state.g)
  let first := state.h + sumE + choice + constant + word
  let sumA := rotate state.a 2 ^^^ rotate state.a 13 ^^^ rotate state.a 22
  let majority := (state.a &&& state.b) ^^^ (state.a &&& state.c) ^^^ (state.b &&& state.c)
  ⟨first + (sumA + majority), state.a, state.b, state.c, state.d + first, state.e, state.f, state.g⟩

/-- The word that follows the scheduled words, which are given latest first. -/
def nextWord (words : List UInt32) : UInt32 :=
  let recent := words.getD 1 0
  let old := words.getD 14 0
  let small0 := rotate old 7 ^^^ rotate old 18 ^^^ (old >>> 3)
  let small1 := rotate recent 17 ^^^ rotate recent 19 ^^^ (recent >>> 10)
  words.getD 15 0 + small0 + words.getD 6 0 + small1

/-- Lengthen a schedule that is given latest word first. -/
def extend : (count : Nat) → List UInt32 → List UInt32
  | 0, words => words
  | count + 1, words => extend count (nextWord words :: words)

def words : Octets → List UInt32
  | first :: second :: third :: fourth :: rest =>
      UInt32.ofNat (Octets.toNat [first, second, third, fourth]) :: words rest
  | _ => []

def schedule (block : Octets) : List UInt32 :=
  (extend 48 (words block).reverse).reverse

def compress (state : State) (block : Octets) : State :=
  let mixed := (roundConstants.zip (schedule block)).foldl
    (fun current (constant, word) => round current constant word) state
  ⟨state.a + mixed.a, state.b + mixed.b, state.c + mixed.c, state.d + mixed.d,
   state.e + mixed.e, state.f + mixed.f, state.g + mixed.g, state.h + mixed.h⟩

/-- Pad a message with a one bit, zeros and its length in bits. -/
def pad (message : Octets) : Octets :=
  message ++ 0x80 :: List.replicate ((119 - message.length % 64) % 64) 0 ++
    Octets.ofNat 8 (message.length * 8)

def absorb : (blocks : Nat) → State → Octets → State
  | 0, state, _ => state
  | blocks + 1, state, octets => absorb blocks (compress state (octets.take 64)) (octets.drop 64)

def State.octets (state : State) : Octets :=
  [state.a, state.b, state.c, state.d, state.e, state.f, state.g, state.h].flatMap
    fun word => Octets.ofNat 4 word.toNat

def digest (message : Octets) : Octets :=
  let padded := pad message
  (absorb (padded.length / 64) initial padded).octets

end TokenAuthority.Sha256
