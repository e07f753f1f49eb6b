import TokenAuthority.Number.Binary64
import TokenAuthority.Text.CodePoint

/-!
JSON values.

Integers are exact and apart from floating-point numbers, and an object is the list of its members
in their order, no name twice.
-/

namespace TokenAuthority

inductive Json where
  | null
  | bool (value : Bool)
  | int (value : Int)
  | float (value : Binary64)
  | text (value : Text)
  | array (items : List Json)
  | object (members : List (Text × Json))
deriving Repr, Inhabited

namespace Json

def lookup? (name : Text) : List (Text × Json) → Option Json
  | [] => none
  | (candidate, value) :: rest => if candidate = name then some value else lookup? name rest

/-- Give a member a value: in its place when the name is taken, at the end otherwise. -/
def setMember (name : Text) (value : Json) : List (Text × Json) → List (Text × Json)
  | [] => [(name, value)]
  | (candidate, current) :: rest =>
      if candidate = name then (name, value) :: rest
      else (candidate, current) :: setMember name value rest

def get? (name : Text) : Json → Option Json
  | .object members => lookup? name members
  | _ => none

def members? : Json → Option (List (Text × Json))
  | .object members => some members
  | _ => none

def text? : Json → Option Text
  | .text value => some value
  | _ => none

/-- Whether a value counts as unset: null, false, a zero, or an empty text, array or object. -/
def isUnset : Json → Bool
  | .null => true
  | .bool value => !value
  | .int value => value == 0
  | .float value => value.isZero
  | .text value => value.isEmpty
  | .array items => items.isEmpty
  | .object members => members.isEmpty

end Json

end TokenAuthority
