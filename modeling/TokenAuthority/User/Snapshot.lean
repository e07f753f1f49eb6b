import TokenAuthority.Json.Basic

/-!
Users as tokens carry them, and the forms in which they are exchanged.

A form is an object whose members are checked one by one; all that is wrong with it is reported at
once, by member.  `UserSnapshot.load` reads the form that `UserSnapshot.dump` writes, and drops the
members that it does not know.
-/

namespace TokenAuthority

/-- What a token tells about its user. -/
structure UserSnapshot where
  id : Text
  email : Text := ""
  username : Text := ""
  imageUrl : Text := ""
  website : Text := ""
deriving DecidableEq, Repr, Inhabited

inductive MemberProblem where
  | absent
  | null
  | notText
  | tooShort
  | unknown
  /-- The form is no object at all. -/
  | notAnObject
deriving DecidableEq, Repr

def MemberProblem.message : MemberProblem → String
  | .absent => "Missing data for required field."
  | .null => "Field may not be null."
  | .notText => "Not a valid string."
  | .tooShort => "Shorter than minimum length 1."
  | .unknown => "Unknown field."
  | .notAnObject => "Invalid input type."

abbrev FormProblems := List (Text × MemberProblem)

def FormProblems.notAnObject : FormProblems :=
  [("_schema", .notAnObject)]

def FormProblems.toJson (problems : FormProblems) : Json :=
  .object (problems.map fun (name, problem) => (name, .array [.text problem.message]))

namespace Form

def requiredText (members : List (Text × Json)) (name : Text) : Except MemberProblem Text :=
  match Json.lookup? name members with
  | none => .error .absent
  | some .null => .error .null
  | some (.text text) => if text.isEmpty then .error .tooShort else .ok text
  | some _ => .error .notText

/-- Read a text that is empty when absent. -/
def optionalText (members : List (Text × Json)) (name : Text) : Except MemberProblem Text :=
  match Json.lookup? name members with
  | none => .ok ""
  | some .null => .error .null
  | some (.text text) => .ok text
  | some _ => .error .notText

def problem? (name : Text) : Except MemberProblem Text → FormProblems
  | .error problem => [(name, problem)]
  | .ok _ => []

end Form

namespace UserSnapshot

def dump (user : UserSnapshot) : Json :=
  .object
    [("uid", .text user.id), ("email", .text user.email), ("username", .text user.username),
     ("imageURL", .text user.imageUrl), ("website", .text user.website)]

def ofMembers (members : List (Text × Json)) : Except FormProblems UserSnapshot :=
  let id := Form.requiredText members "uid"
  let email := Form.optionalText members "email"
  let username := Form.optionalText members "username"
  let imageUrl := Form.optionalText members "imageURL"
  let website := Form.optionalText members "website"
  match id, email, username, imageUrl, website with
  | .ok id, .ok email, .ok username, .ok imageUrl, .ok website =>
      .ok ⟨id, email, username, imageUrl, website⟩
  | _, _, _, _, _ =>
      .error
        (Form.problem? "uid" id ++ Form.problem? "email" email ++
          Form.problem? "username" username ++ Form.problem? "imageURL" imageUrl ++
          Form.problem? "website" website)

def load : Json → Except FormProblems UserSnapshot
  | .object members => ofMembers members
  | _ => .error .notAnObject

end UserSnapshot

def refreshTokenMember : Text := "refreshToken"

/-- Read a request for rotation: an object with a refresh token and nothing else. -/
def loadRotationRequest : Json → Except FormProblems Text
  | .object members =>
      let token := Form.requiredText members refreshTokenMember
      let unknown := (members.filter fun member => member.1 ≠ refreshTokenMember).map
        fun member => (member.1, MemberProblem.unknown)
      match token, unknown with
      | .ok token, [] => .ok token
      | _, _ => .error (Form.problem? refreshTokenMember token ++ unknown)
  | _ => .error .notAnObject

end TokenAuthority
