import TokenAuthority.Json.Basic
import TokenAuthority.Number.DecimalReader

/-!
Reading JSON.

The reader takes the standard grammar and the words `NaN`, `Infinity` and `-Infinity`.  Of several
members of one name the last value counts, in the place of the first.  Escapes are UTF-16 code
units: two of them that make up a character are joined to it, and any other surrogate is kept, as is
one that is not escaped.  Arrays and objects may be nested as deep as told, and integers have a
greatest length.

Each reading function takes what it reads from the front of a text and hands back the rest.  The
mutual functions spend one unit of fuel per call; a code point is consumed between any two calls
that spend it, so twice the length of the text is always enough.
-/

namespace TokenAuthority.Json

open Text (CodePoint)

/-- Why a text is refused. -/
inductive ReadError where
  /-- The text does not follow the grammar, or holds an integer that is too long. -/
  | malformed
  | tooDeep
deriving DecidableEq, Repr

def isSpace (character : Char) : Bool :=
  character == ' ' || character == '\t' || character == '\n' || character == '\r'

def skipSpace (codes : Text) : Text :=
  (Text.splitWhile isSpace codes).2

def hexDigit? (code : CodePoint) : Option Nat := do
  (Text.radixDigit? (← code.character?)).filter (· < 16)

def hexUnit? (first second third fourth : CodePoint) : Option Nat := do
  return (((← hexDigit? first) * 16 + (← hexDigit? second)) * 16 + (← hexDigit? third)) * 16 +
    (← hexDigit? fourth)

def escapedCharacter? : Char → Option Char
  | '"' => some '"'
  | '\\' => some '\\'
  | '/' => some '/'
  | 'b' => some '\x08'
  | 'f' => some '\x0c'
  | 'n' => some '\n'
  | 'r' => some '\r'
  | 't' => some '\t'
  | _ => none

/-- Add an escaped high surrogate that was held back to what was read, in reverse order. -/
def flush (read : Text) (pending : Option (Fin 0x400)) : Text :=
  match pending with
  | some high => .high high :: read
  | none => read

/-- Read the rest of a text up to its closing quote.  What was read so far is held in reverse order,
and an escaped high surrogate is held back until it is known whether a low one is escaped after
it. -/
def readText? (read : Text) (pending : Option (Fin 0x400)) : Text → Option (Text × Text)
  | .char '\\' :: .char 'u' :: first :: second :: third :: fourth :: rest =>
      match hexUnit? first second third fourth with
      | none => none
      | some unit =>
          match CodePoint.ofNat unit, pending with
          | .low low, some high => readText? (.char (CodePoint.ofPair high low) :: read) none rest
          | .high next, _ => readText? (flush read pending) (some next) rest
          | code, _ => readText? (code :: flush read pending) none rest
  | .char '\\' :: .char letter :: rest =>
      match escapedCharacter? letter with
      | none => none
      | some character => readText? (.char character :: flush read pending) none rest
  | .char character :: rest =>
      if character = '"' then some ((flush read pending).reverse, rest)
      else if character.toNat < 0x20 ∨ character = '\\' then none
      else readText? (.char character :: flush read pending) none rest
  | surrogate :: rest => readText? (surrogate :: flush read pending) none rest
  | [] => none

/-- Read the fraction of a number; a point without a digit after it is left alone. -/
def readFraction (codes : Text) : List Char × Text :=
  match codes with
  | .char '.' :: rest =>
      let (digits, rest) := Text.splitWhile Char.isDigit rest
      if digits.isEmpty then ([], codes) else (digits, rest)
  | codes => ([], codes)

/-- Split off a sign; the first part tells whether it is a minus. -/
def splitSign : Text → Bool × Text
  | .char '-' :: rest => (true, rest)
  | .char '+' :: rest => (false, rest)
  | codes => (false, codes)

/-- Read the exponent of a number; a mark without a digit after it is left alone. -/
def readExponent (codes : Text) : Option Int × Text :=
  match codes with
  | mark :: rest =>
      if mark = .char 'e' ∨ mark = .char 'E' then
        let (negative, unsigned) := splitSign rest
        let (digits, rest) := Text.splitWhile Char.isDigit unsigned
        if digits.isEmpty then (none, codes)
        else (some (Numeral.signed negative (Numeral.digitsValue digits)), rest)
      else (none, codes)
  | [] => (none, [])

/-- Make a number of its parts: an integer when it has neither fraction nor exponent. -/
def makeNumber (negative : Bool) (whole fraction : List Char) (exponent : Option Int) :
    Except ReadError Json :=
  match fraction, exponent with
  | [], none =>
      if Numeral.digitLimit < whole.length then .error .malformed
      else .ok (.int (Numeral.signed negative (Numeral.digitsValue whole)))
  | _, _ => .ok (.float (Binary64.DecimalParts.number ⟨whole, fraction, exponent.getD 0⟩ negative))

/-- Split off the digits before a point; a zero is never followed by others. -/
def splitWhole : Text → List Char × Text
  | .char '0' :: rest => (['0'], rest)
  | codes => Text.splitWhile Char.isDigit codes

def readUnsigned (negative : Bool) (codes : Text) : Except ReadError (Json × Text) :=
  let (whole, rest) := splitWhole codes
  if whole.isEmpty then .error .malformed
  else
    let (fraction, rest) := readFraction rest
    let (exponent, rest) := readExponent rest
    (makeNumber negative whole fraction exponent).map (·, rest)

/-- The words that stand for values. -/
def words : List (List Char × Json) :=
  [("null".toList, .null), ("true".toList, .bool true), ("false".toList, .bool false),
   ("NaN".toList, .float (.notANumber false)), ("Infinity".toList, .float (.infinite false)),
   ("-Infinity".toList, .float (.infinite true))]

/-- The word at the front of a text. -/
def word? (codes : Text) : Option (List Char × Json) :=
  words.find? fun word => (Text.ofChars word.1).isPrefixOf codes

def readScalar (codes : Text) : Except ReadError (Json × Text) :=
  match word? codes with
  | some (word, value) => .ok (value, codes.drop word.length)
  | none =>
      match codes with
      | .char '-' :: rest => readUnsigned true rest
      | codes => readUnsigned false codes

mutual

def readValue : (fuel depth : Nat) → Text → Except ReadError (Json × Text)
  | 0, _, _ => .error .malformed
  | _ + 1, _, .char '"' :: rest =>
      match readText? [] none rest with
      | some (content, rest) => .ok (.text content, rest)
      | none => .error .malformed
  | fuel + 1, depth, .char '[' :: rest =>
      match depth with
      | 0 => .error .tooDeep
      | depth + 1 =>
          match skipSpace rest with
          | .char ']' :: rest => .ok (.array [], rest)
          | rest => readItems fuel depth [] rest
  | fuel + 1, depth, .char '{' :: rest =>
      match depth with
      | 0 => .error .tooDeep
      | depth + 1 =>
          match skipSpace rest with
          | .char '}' :: rest => .ok (.object [], rest)
          | rest => readMembers fuel depth [] rest
  | _ + 1, _, codes => readScalar codes

def readItems : (fuel depth : Nat) → List Json → Text → Except ReadError (Json × Text)
  | 0, _, _, _ => .error .malformed
  | fuel + 1, depth, read, codes =>
      match readValue fuel depth codes with
      | .error error => .error error
      | .ok (item, rest) =>
          match skipSpace rest with
          | .char ',' :: rest => readItems fuel depth (item :: read) (skipSpace rest)
          | .char ']' :: rest => .ok (.array (item :: read).reverse, rest)
          | _ => .error .malformed

def readMembers : (fuel depth : Nat) → List (Text × Json) → Text → Except ReadError (Json × Text)
  | 0, _, _, _ => .error .malformed
  | fuel + 1, depth, read, codes =>
      match codes with
      | .char '"' :: rest =>
          match readText? [] none rest with
          | none => .error .malformed
          | some (name, rest) =>
              match skipSpace rest with
              | .char ':' :: rest =>
                  match readValue fuel depth (skipSpace rest) with
                  | .error error => .error error
                  | .ok (value, rest) =>
                      let read := setMember name value read
                      match skipSpace rest with
                      | .char ',' :: rest => readMembers fuel depth read (skipSpace rest)
                      | .char '}' :: rest => .ok (.object read, rest)
                      | _ => .error .malformed
              | _ => .error .malformed
      | _ => .error .malformed

end

/-- Read a value whose arrays and objects are nested no deeper than told. -/
def read (depth : Nat) (codes : Text) : Except ReadError Json :=
  match readValue (2 * codes.length + 2) depth (skipSpace codes) with
  | .error error => .error error
  | .ok (value, rest) => if (skipSpace rest).isEmpty then .ok value else .error .malformed

end TokenAuthority.Json
