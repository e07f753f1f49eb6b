import TokenAuthority.Proofs.Service.Call
import TokenAuthority.Token.Fault

/-!
Steps that break off as expected.

The steps of a verification break off in many ways, and only some of these are expected of the kind
of token that is verified.  A chain of steps breaks off as expected if each of its steps does, and a
step may rely on what the steps before it have found.
-/

namespace TokenAuthority

/-- Whether a step breaks off only as it is expected of a kind of token. -/
def FailsAsExpected {α : Type} (kind : TokenKind) (step : Except VerificationFault α) : Prop :=
  ∀ fault, step = .error fault → fault.unexpected? kind = none

namespace FailsAsExpected

variable {α β : Type} {kind : TokenKind}

theorem ok (value : α) : FailsAsExpected kind (.ok value) := by
  intro fault failed
  cases failed

theorem error {fault : VerificationFault} (expected : fault.unexpected? kind = none) :
    FailsAsExpected kind (.error fault : Except VerificationFault α) := by
  intro other failed
  rw [← Except.error.inj failed]
  exact expected

/-- Later steps may rely on the value that the first one has found. -/
theorem bind {first : Except VerificationFault α} {next : α → Except VerificationFault β}
    (fails : FailsAsExpected kind first)
    (goesOn : ∀ value, first = .ok value → FailsAsExpected kind (next value)) :
    FailsAsExpected kind (first >>= next) := by
  intro fault failed
  rcases of_bind_eq_error failed with failedFirst | ⟨value, found, failedLater⟩
  · exact fails fault failedFirst
  · exact goesOn value found fault failedLater

/-- A value that is found, or else an expected fault. -/
theorem elim {found : Option α} {fault : VerificationFault}
    (expected : fault.unexpected? kind = none) :
    FailsAsExpected kind (found.elim (.error fault) .ok) := by
  cases found with
  | none => exact error expected
  | some value => exact ok value

end FailsAsExpected

end TokenAuthority
