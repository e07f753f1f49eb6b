import TokenAuthority.Text.CodePoint

/-!
Tables of deadlines.

A table gives some keys a deadline, an instant in the terms of some clock.  Whether an entry counts
at an instant is for the store to say that holds the table.
-/

namespace TokenAuthority

/-- Keys and their deadlines; the first entry of a key counts. -/
abbrev Table (δ : Type) := List (Text × δ)

namespace Table

variable {δ : Type}

def find? (table : Table δ) (key : Text) : Option δ :=
  match table with
  | [] => none
  | (candidate, deadline) :: rest => if candidate = key then some deadline else find? rest key

def erase (table : Table δ) (key : Text) : Table δ :=
  table.filter fun entry => entry.1 ≠ key

def set (table : Table δ) (key : Text) (deadline : δ) : Table δ :=
  (key, deadline) :: erase table key

def keys (table : Table δ) : List Text :=
  table.map Prod.fst

end Table

end TokenAuthority
