import TokenAuthority.Failure
import TokenAuthority.User.Snapshot

/-!
How the verification of a token breaks off.

Verification takes several steps, and each of them breaks off in ways of its own.  Some of these
faults are expected of a token that cannot be trusted; which ones depends on the kind of token.  Any
other fault is one of the program.
-/

namespace TokenAuthority

inductive VerificationFault where
  /-- The token is refused for its form, its signature or one of the claims that all tokens have. -/
  | refused
  | illFormedUser (problems : FormProblems)
  /-- A claim is of a kind that never stands for what it is meant to. -/
  | wrongKind
  | badValue
  /-- A claim is asked for that the token does not make. -/
  | absentClaim (name : String)
deriving DecidableEq, Repr

/-- The name of a fault that is not expected of a kind of token. -/
def VerificationFault.unexpected? (kind : TokenKind) : VerificationFault → Option String
  | .refused => none
  | .illFormedUser _ =>
      match kind with
      | .identity => none
      | .refresh => some "ValidationError"
  | .wrongKind => none
  | .badValue => none
  | .absentClaim _ => some "KeyError"

end TokenAuthority
