import TokenAuthority.Json.Basic

/-!
What the library reports while it works.
-/

namespace TokenAuthority.Log

inductive Severity where
  | debug
  | info
  | warning
  | error
  | critical
deriving DecidableEq, Repr

/-- The number of a severity; graver reports have greater numbers. -/
def Severity.number : Severity → Int
  | .debug => 10
  | .info => 20
  | .warning => 30
  | .error => 40
  | .critical => 50

def Severity.name : Severity → String
  | .debug => "DEBUG"
  | .info => "INFO"
  | .warning => "WARNING"
  | .error => "ERROR"
  | .critical => "CRITICAL"

/-- A report: where it comes from, what it says, what it is about, and the kind of the fault that
caused it, if any. -/
structure Event where
  severity : Severity
  logger : String
  message : Text
  subject : List (Text × Json) := []
  fault : Option String := none

end TokenAuthority.Log
