import TokenAuthority.Json.Literal
import TokenAuthority.Log.Form
import TokenAuthority.Number.Numeral

/-!
Templates of messages.

A directive begins with a percent sign and ends with a letter that tells how an argument is
written; between them may stand a name in parentheses, flags, a width and a precision.  Arguments
are taken in order, and all of them must be used, or by name from one object.  An asterisk in
place of a width or a precision takes an argument for it.  A number may be written as the code point
of that number, which may be a surrogate.
-/

namespace TokenAuthority.Log.Template

open Text (CodePoint)

/-- Why a template cannot be filled in. -/
inductive Error where
  /-- Arguments are too few, too many, or of a kind that their directive cannot write. -/
  | mismatch
  /-- A directive is not complete or not known, or a number has no text in its form. -/
  | badDirective
  | unknownName
  | outOfRange
  /-- An argument is nested deeper than can be written. -/
  | tooDeep
deriving DecidableEq, Repr

inductive Arguments where
  | inOrder (values : List Json)
  /-- The members of one object, and what the next directive takes: the argument that it has named,
  or the object as a whole while nothing was taken. -/
  | byName (members : List (Text × Json)) (next : Option Json)

namespace Arguments

/-- The arguments of a message: a single object that is not empty gives them by name. -/
def ofList : List Json → Arguments
  | [.object (member :: rest)] =>
      .byName (member :: rest) (some (.object (member :: rest)))
  | values => .inOrder values

def areLeft : Arguments → Bool
  | .inOrder values => !values.isEmpty
  | .byName _ _ => false

def take : Arguments → Except Error (Json × Arguments)
  | .inOrder (value :: rest) => .ok (value, .inOrder rest)
  | .byName members (some value) => .ok (value, .byName members none)
  | _ => .error .mismatch

def select (members : List (Text × Json)) (name : Text) : Except Error Arguments :=
  match Json.lookup? name members with
  | some value => .ok (.byName members (some value))
  | none => .error .unknownName

end Arguments

inductive Conversion where
  | plain
  | literal
  | asciiLiteral
  | decimal
  | octal
  | hexadecimal
  | fixed
  | scientific
  | general
deriving DecidableEq, Repr

def Conversion.ofLetter? : Char → Option Conversion
  | 's' => some .plain
  | 'r' => some .literal
  | 'a' => some .asciiLiteral
  | 'd' => some .decimal
  | 'i' => some .decimal
  | 'u' => some .decimal
  | 'o' => some .octal
  | 'x' => some .hexadecimal
  | 'X' => some .hexadecimal
  | 'f' => some .fixed
  | 'F' => some .fixed
  | 'e' => some .scientific
  | 'E' => some .scientific
  | 'g' => some .general
  | 'G' => some .general
  | _ => none

def exactInteger : Json → Except Error Int
  | .int value => .ok value
  | .bool value => .ok (if value then 1 else 0)
  | _ => .error .mismatch

/-- The integer that an argument stands for where any number is written as one. -/
def wholeInteger : Json → Except Error Int
  | .float (.infinite _) => .error .outOfRange
  | .float value => value.truncate?.elim (.error .badDirective) .ok
  | argument => exactInteger argument

def number : Json → Except Error Binary64
  | .float value => .ok value
  | argument => do
      match Binary64.ofInt (← exactInteger argument) with
      | .infinite _ => .error .outOfRange
      | number => .ok number

def codePointOf : Json → Except Error CodePoint
  | .text [code] => .ok code
  | .text _ => .error .mismatch
  | argument => do
      let code ← exactInteger argument
      if 0 ≤ code ∧ code < 0x110000 then .ok (.ofNat code.toNat) else .error .outOfRange

/-- Refuse a value that has no literal. -/
def checkLiteral (levels : Nat) (argument : Json) : Except Error Unit :=
  match argument.literalError? levels with
  | none => .ok ()
  | some .integerTooLong => .error .badDirective
  | some .tooDeep => .error .tooDeep

/-- Refuse a value that has no text; a text is one itself. -/
def checkPlain (levels : Nat) : Json → Except Error Unit
  | .text _ => .ok ()
  | argument => checkLiteral levels argument

/-- Refuse an integer with too many digits. -/
def checkDigits (value : Int) : Except Error Unit :=
  checkLiteral 1 (.int value)

def asciiLiteralOf (argument : Json) : List Char :=
  argument.literal.toList.flatMap fun character =>
    if character.toNat < 0x80 then [character] else Text.codePointEscape character.toNat

def Conversion.write (levels : Nat) (conversion : Conversion) (form : Form) (argument : Json) :
    Except Error Text := do
  match conversion with
  | .plain =>
      checkPlain levels argument
      return form.text argument.plainText
  | .literal =>
      checkLiteral levels argument
      return form.text argument.literal
  | .asciiLiteral =>
      checkLiteral levels argument
      return form.text (.ofChars (asciiLiteralOf argument))
  | .decimal =>
      let value ← wholeInteger argument
      checkDigits value
      return .ofChars (form.integer 10 [] value)
  | .octal => return .ofChars (form.integer 8 ['0', 'o'] (← exactInteger argument))
  | .hexadecimal => return .ofChars (form.integer 16 ['0', 'x'] (← exactInteger argument))
  | .fixed => return .ofChars (form.number form.fixed (← number argument))
  | .scientific => return .ofChars (form.number form.scientific (← number argument))
  | .general => return .ofChars (form.number form.general (← number argument))

/-- The code point of the capital of an ASCII letter. -/
def capital : CodePoint → CodePoint
  | .char character => .char character.toUpper
  | surrogate => surrogate

def write (levels : Nat) (letter : Char) (form : Form) (argument : Json) : Except Error Text :=
  if letter = 'c' then do
    let code ← codePointOf argument
    return form.fill (.char ' ') [code]
  else
    match Conversion.ofLetter? letter with
    | none => .error .badDirective
    | some conversion => do
        let written ← conversion.write levels form argument
        return if letter.isUpper then written.map capital else written

def readName? (depth : Nat) (read : Text) : Text → Option (Text × Text)
  | [] => none
  | .char '(' :: rest => readName? (depth + 1) (.char '(' :: read) rest
  | .char ')' :: rest =>
      match depth with
      | 0 => some (read.reverse, rest)
      | depth + 1 => readName? depth (.char ')' :: read) rest
  | code :: rest => readName? depth (code :: read) rest

def readSelection (arguments : Arguments) (text : Text) :
    Except Error (Arguments × Text) :=
  match text, arguments with
  | .char '(' :: _, .inOrder _ => .error .mismatch
  | .char '(' :: rest, .byName members _ =>
      match readName? 0 [] rest with
      | none => .error .badDirective
      | some (name, rest) => (Arguments.select members name).map fun arguments => (arguments, rest)
  | text, arguments => .ok (arguments, text)

def readAmount (limit : Nat) (arguments : Arguments) (text : Text) :
    Except Error (Int × Arguments × Text) := do
  match text with
  | .char '*' :: rest =>
      let (argument, arguments) ← arguments.take
      let amount ← exactInteger argument
      if amount.natAbs < limit then return (amount, arguments, rest) else .error .outOfRange
  | text =>
      let (digits, rest) := Text.splitWhile Char.isDigit text
      let amount := Numeral.digitsValue digits
      if amount < limit then return (amount, arguments, rest) else .error .badDirective

/-- Read the precision that may stand in a directive; one below zero counts as zero. -/
def readPrecision (arguments : Arguments) :
    Text → Except Error (Option Nat × Arguments × Text)
  | .char '.' :: rest => do
      let (amount, arguments, rest) ← readAmount 0x8000_0000 arguments rest
      return (some amount.toNat, arguments, rest)
  | text => .ok (none, arguments, text)

/-- Skip a letter that tells the size of a number, which has no effect. -/
def skipSize : Text → Text
  | [] => []
  | code :: rest => if code ∈ ("hlL" : Text) then rest else code :: rest

def fillDirective (levels : Nat) (arguments : Arguments) (text : Text) :
    Except Error (Text × Arguments × Text) := do
  let (arguments, text) ← readSelection arguments text
  let (flags, text) := Text.splitWhile Form.isFlag text
  let (width, arguments, text) ← readAmount 0x8000_0000_0000_0000 arguments text
  let (precision, arguments, text) ← readPrecision arguments text
  match skipSize text with
  | [] => .error .badDirective
  | code :: rest =>
      let (argument, arguments) ← arguments.take
      let letter ← code.character?.elim (.error .badDirective) .ok
      return (← write levels letter ⟨flags, width, precision⟩ argument, arguments, rest)

/-- Fill in a template; the bound is its length. -/
def fillIn (levels bound : Nat) (arguments : Arguments) (text : Text) :
    Except Error (Text × Arguments) :=
  match bound, text with
  | 0, _ => .ok ([], arguments)
  | _, [] => .ok ([], arguments)
  | bound + 1, .char '%' :: .char '%' :: rest => do
      let (written, arguments) ← fillIn levels bound arguments rest
      return (.char '%' :: written, arguments)
  | bound + 1, .char '%' :: rest => do
      let (first, arguments, rest) ← fillDirective levels arguments rest
      let (written, arguments) ← fillIn levels bound arguments rest
      return (first ++ written, arguments)
  | bound + 1, code :: rest => do
      let (written, arguments) ← fillIn levels bound arguments rest
      return (code :: written, arguments)

/-- The message of a template.  Without arguments the template is the message. -/
def message (levels : Nat) (template : Text) (arguments : List Json) : Except Error Text :=
  if arguments.isEmpty then .ok template
  else
    match fillIn levels template.length (.ofList arguments) template with
    | .error error => .error error
    | .ok (written, left) => if left.areLeft then .error .mismatch else .ok written

end TokenAuthority.Log.Template
