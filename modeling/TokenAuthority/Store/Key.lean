import TokenAuthority.Json.Literal

/-!
Keys of the revocation store.

A key joins a user and a token by a separator that neither part may hold, so that a key determines
its parts and the keys of one user are those that begin with the user and the separator.
-/

namespace TokenAuthority.StoreKey

def separator : Text.CodePoint := .char ':'

def isPart (text : Text) : Bool :=
  !text.isEmpty && !text.contains separator

def isPartValue : Json → Bool
  | .text text => isPart text
  | _ => false

inductive Field where
  | user
  | token
deriving DecidableEq, Repr

def Field.name : Field → String
  | .user => "user_id"
  | .token => "token_id"

/-- A value that cannot be the part of a key that it is meant to be. -/
structure PartError where
  field : Field
  value : Json

def PartError.message (error : PartError) : String :=
  error.field.name ++ " must be non-empty and free of ':': " ++ error.value.literal

def requirePart (field : Field) (value : Json) : Except PartError Text :=
  match value with
  | .text text => if isPart text then .ok text else .error ⟨field, value⟩
  | _ => .error ⟨field, value⟩

/-- What the keys of a user begin with. -/
def userStart (user : Text) : Text :=
  user ++ [separator]

def join (user token : Text) : Text :=
  userStart user ++ token

def ofValues (user token : Json) : Except PartError Text := do
  let user ← requirePart .user user
  let token ← requirePart .token token
  return join user token

def startOfValue (user : Json) : Except PartError Text := do
  return userStart (← requirePart .user user)

def make (user token : Text) : Except PartError Text :=
  ofValues (.text user) (.text token)

def start (user : Text) : Except PartError Text :=
  startOfValue (.text user)

end TokenAuthority.StoreKey
