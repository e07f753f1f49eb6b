import TokenAuthority.Store.Key

/-!
Patterns over keys.

In a pattern a star stands for anything and a question mark for any one code point; brackets hold a
class of them, and a backslash takes the one after it literally.  `escape` writes a text so that it
stands for itself.
-/

namespace TokenAuthority.Pattern

open Text (CodePoint)

def isSpecial (code : CodePoint) : Bool :=
  code == .char '*' || code == .char '?' || code == .char '[' || code == .char ']' ||
    code == .char '\\'

/-- Write a text so that it stands for itself. -/
def escape (text : Text) : Text :=
  text.flatMap fun code => if isSpecial code then [.char '\\', code] else [code]

def startingWith (start : Text) : Text :=
  escape start ++ [.char '*']

inductive Element where
  | anySequence
  | anyOne
  | literal (code : CodePoint)
  /-- A class of code points: closed ranges, or all code points outside of them. -/
  | oneOf (negated : Bool) (ranges : List (CodePoint × CodePoint))
deriving DecidableEq, Repr

/-- Whether a code point is in one of some ranges; the ends of a range may come in either order. -/
def inRanges (ranges : List (CodePoint × CodePoint)) (code : CodePoint) : Bool :=
  ranges.any fun (low, high) =>
    (low.value ≤ code.value && code.value ≤ high.value) ||
      (high.value ≤ code.value && code.value ≤ low.value)

/-- Read the ranges of a class up to its closing bracket, which may be missing; the bound is the
length of the text. -/
def readRanges (bound : Nat) (ranges : List (CodePoint × CodePoint)) (text : Text) :
    List (CodePoint × CodePoint) × Text :=
  match bound, text with
  | 0, rest => (ranges, rest)
  | _, [] => (ranges, [])
  | _ + 1, .char ']' :: rest => (ranges, rest)
  | bound + 1, .char '\\' :: code :: rest => readRanges bound ((code, code) :: ranges) rest
  | bound + 1, low :: .char '-' :: high :: rest => readRanges bound ((low, high) :: ranges) rest
  | bound + 1, code :: rest => readRanges bound ((code, code) :: ranges) rest

def readElements (bound : Nat) (text : Text) : List Element :=
  match bound, text with
  | 0, _ => []
  | _, [] => []
  | bound + 1, .char '*' :: rest => .anySequence :: readElements bound rest
  | bound + 1, .char '?' :: rest => .anyOne :: readElements bound rest
  | bound + 1, .char '\\' :: code :: rest => .literal code :: readElements bound rest
  | bound + 1, .char '[' :: rest =>
      let (negated, rest) :=
        match rest with
        | .char '^' :: rest => (true, rest)
        | rest => (false, rest)
      let (ranges, rest) := readRanges rest.length [] rest
      .oneOf negated ranges :: readElements bound rest
  | bound + 1, code :: rest => .literal code :: readElements bound rest

def elements (pattern : Text) : List Element :=
  readElements pattern.length pattern

def Element.fits (element : Element) (code : CodePoint) : Bool :=
  match element with
  | .anySequence => false
  | .anyOne => true
  | .literal expected => expected == code
  | .oneOf negated ranges => negated != inRanges ranges code

/-- Whether a test holds of a text or of one of its ends. -/
def holdsOfSuffix (test : Text → Bool) : Text → Bool
  | [] => test []
  | code :: rest => test (code :: rest) || holdsOfSuffix test rest

def fitsAll : List Element → Text → Bool
  | [], text => text.isEmpty
  | .anySequence :: elements, text => holdsOfSuffix (fitsAll elements) text
  | element :: elements, text =>
      match text with
      | [] => false
      | code :: rest => element.fits code && fitsAll elements rest

def matchesKey (pattern key : Text) : Bool :=
  fitsAll (elements pattern) key

end TokenAuthority.Pattern
