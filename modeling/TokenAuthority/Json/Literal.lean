import TokenAuthority.Json.Writer
import TokenAuthority.Number.Numeral

/-!
Values as literals inside messages.

Texts are quoted, numbers are written as they are, and the words for null and the truth values are
capitalised.  An integer with too many digits is not written, and neither is a value that holds one
or that is nested too deep.
-/

namespace TokenAuthority.Json

mutual

def literal : Json → String
  | .null => "None"
  | .bool true => "True"
  | .bool false => "False"
  | .int value => String.ofList (writeInt value)
  | .float value => value.text
  | .text value => Text.literal value
  | .array items => "[" ++ ", ".intercalate (itemLiterals items) ++ "]"
  | .object members => "\x7b" ++ ", ".intercalate (memberLiterals members) ++ "\x7d"

def itemLiterals : List Json → List String
  | [] => []
  | item :: rest => literal item :: itemLiterals rest

def memberLiterals : List (Text × Json) → List String
  | [] => []
  | (name, value) :: rest => (Text.literal name ++ ": " ++ literal value) :: memberLiterals rest

end

/-- Why a value is not written. -/
inductive WriteError where
  | integerTooLong
  | tooDeep
deriving DecidableEq, Repr

mutual

/-- What keeps a value from being written, of several such things the first.  Every array or object
takes one of the levels that there are, and a scalar some number of them. -/
def writeError? (scalar : Nat) : (levels : Nat) → Json → Option WriteError
  | 0, .array _ => some .tooDeep
  | levels + 1, .array items => itemsWriteError? scalar levels items
  | 0, .object _ => some .tooDeep
  | levels + 1, .object members => membersWriteError? scalar levels members
  | levels, .int value =>
      if levels < scalar then some .tooDeep
      else if value.natAbs < Nat.pow 10 Numeral.digitLimit then none
      else some .integerTooLong
  | levels, _ => if levels < scalar then some .tooDeep else none

def itemsWriteError? (scalar levels : Nat) : List Json → Option WriteError
  | [] => none
  | item :: rest => (writeError? scalar levels item).or (itemsWriteError? scalar levels rest)

def membersWriteError? (scalar levels : Nat) : List (Text × Json) → Option WriteError
  | [] => none
  | (_, value) :: rest =>
      (writeError? scalar levels value).or (membersWriteError? scalar levels rest)

end

/-- What keeps a value from being written as a literal, in which scalars count like arrays. -/
def literalError? (levels : Nat) (value : Json) : Option WriteError :=
  writeError? 1 levels value

/-- A value inside a running text: a text stands for itself, other values are literals. -/
def plainText : Json → Text
  | .text value => value
  | value => literal value

end TokenAuthority.Json
