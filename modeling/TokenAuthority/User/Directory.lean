import TokenAuthority.User.Snapshot

/-!
The directory of current users.
-/

namespace TokenAuthority

/-- The current snapshots of users; no identifier occurs twice. -/
structure UserDirectory where
  users : List UserSnapshot
deriving DecidableEq, Repr

namespace UserDirectory

def empty : UserDirectory := ⟨[]⟩

def remove (directory : UserDirectory) (id : Text) : UserDirectory :=
  ⟨directory.users.filter fun user => user.id ≠ id⟩

def add (directory : UserDirectory) (user : UserSnapshot) : UserDirectory :=
  ⟨user :: (directory.remove user.id).users⟩

/-- The directory of some users; of several with one identifier the last counts. -/
def ofList (users : List UserSnapshot) : UserDirectory :=
  users.foldl add empty

def find? (directory : UserDirectory) (id : Text) : Option UserSnapshot :=
  directory.users.find? fun user => user.id == id

/-- The identifiers of the users, in the order of their code points. -/
def ids (directory : UserDirectory) : List Text :=
  (directory.users.map UserSnapshot.id).mergeSort Text.isAtMost

end UserDirectory

end TokenAuthority
