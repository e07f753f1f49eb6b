import TokenAuthority.Octets.Basic
import TokenAuthority.Text.Literal

/-!
The files that settings may name.

A tree is the working directory with its files and its empty directories.  A path is normalised by
dropping empty and single-dot components, and then walked component by component.  Names are octets:
some low surrogates stand for octets that are part of no character, and a path with any other
surrogate is none.
-/

namespace TokenAuthority

inductive FileEntry where
  | file (octets : Octets)
  | directory
deriving DecidableEq, Repr

abbrev FileTree := List (Text × FileEntry)

inductive FileError where
  | notFound
  | notADirectory
  | isADirectory
  | nameTooLong
deriving DecidableEq, Repr

structure FilePath where
  /-- The slashes before the first component: none, one or two. -/
  root : Text
  components : List Text
deriving DecidableEq, Repr

namespace FilePath

/-- The root of a path that begins with a number of slashes; exactly two are kept apart. -/
def rootOf (slashes : Nat) : Text :=
  if slashes = 0 then [] else if slashes = 2 then "//" else "/"

def slash : Text.CodePoint := .char '/'

def parse (path : Text) : FilePath :=
  let components := path.splitOn slash
  ⟨rootOf (path.takeWhile (· == slash)).length,
    components.filter fun component => !component.isEmpty && component != ("." : Text)⟩

def text (path : FilePath) : Text :=
  if path.root.isEmpty && path.components.isEmpty then "."
  else path.root ++ [slash].intercalate path.components

/-- Whether a code point may be part of a path: a character, or what stands for an octet. -/
def isPathCode : Text.CodePoint → Bool
  | .char _ => true
  | .high _ => false
  | .low index => 0x80 ≤ index.val && index.val ≤ 0xff

def octetCountOf : Text.CodePoint → Nat
  | .char character => character.utf8Size
  | _ => 1

/-- The number of octets of a path. -/
def octetCount (path : Text) : Nat :=
  path.foldl (fun count code => count + octetCountOf code) 0

end FilePath

def FileError.message (error : FileError) (path : Text) : String :=
  let (number, reason) :=
    match error with
    | .notFound => ("2", "No such file or directory")
    | .notADirectory => ("20", "Not a directory")
    | .isADirectory => ("21", "Is a directory")
    | .nameTooLong => ("36", "File name too long")
  "[Errno " ++ number ++ "] " ++ reason ++ ": " ++ Text.literal (FilePath.parse path).text

namespace FileTree

/-- Where a walk has come to. -/
inductive Place where
  /-- The working directory itself. -/
  | here
  /-- An empty directory inside it. -/
  | inside
  | file (octets : Octets)
  /-- A directory around it. -/
  | outside

def componentLimit : Nat := 255

def pathLimit : Nat := 4096

/-- Nothing is found under a name, which may not even be possible. -/
def missing (component : Text) : Except FileError Place :=
  .error (if componentLimit < FilePath.octetCount component then .nameTooLong else .notFound)

def step (tree : FileTree) (place : Place) (component : Text) : Except FileError Place :=
  match place with
  | .file _ => .error .notADirectory
  | .here =>
      if component == (".." : Text) then .ok .outside
      else
        match (tree.find? fun entry => entry.1 == component).map Prod.snd with
        | some (.file octets) => .ok (.file octets)
        | some .directory => .ok .inside
        | none => missing component
  | .inside => if component == (".." : Text) then .ok .here else missing component
  | .outside => if component == (".." : Text) then .ok .outside else missing component

def read (tree : FileTree) (path : Text) : Except FileError Octets :=
  let path := FilePath.parse path
  let start := if path.root.isEmpty then Place.here else Place.outside
  if pathLimit ≤ FilePath.octetCount path.text then .error .nameTooLong
  else
    match path.components.foldlM (step tree) start with
    | .error error => .error error
    | .ok (.file octets) => .ok octets
    | .ok _ => .error .isADirectory

end FileTree

end TokenAuthority
