import TokenAuthority.Proofs.Time.Clock
import TokenAuthority.Service.Context

/-!
Deadlines that have not passed when they are set, and that stay passed.

The deadline of a call is the clock plus a number of seconds, rounded.  A step is lost in rounding
only when it is tiny beside the clock, and a millisecond is not.  A clock that has ticked on is
never read as earlier, so a context that has expired stays so.
-/

namespace TokenAuthority

namespace Binary64

/-- The number of a millisecond, in seconds. -/
def millisecond : Binary64 := ofRatio 1 1000

theorem millisecond_eq : millisecond = .finite false (roundUnits one 1000) := by
  decide +kernel

theorem le_of_atMost {units bound : Nat}
    (below : (finite false units).atMost (.finite false bound) = true) : units ≤ bound :=
  Int.ofNat_le.mp (of_decide_eq_true below)

end Binary64

namespace Clock

open Binary64

/-- A clock that is moved on by a millisecond or more is read as later. -/
theorem atMost_add (clock : Clock) {seconds : Binary64} (positive : seconds.isPositive = true)
    (atLeast : millisecond.atMost seconds = true) :
    (clock.seconds.add seconds).atMost clock.seconds = false := by
  obtain ⟨negative, units, reads⟩ := clock.exists_reads
  have bounded := reads.bounded
  rw [reads.seconds]
  cases seconds with
  | finite stepNegative step =>
      cases stepNegative with
      | true => simp [isPositive] at positive
      | false =>
          have fits := le_of_atMost (millisecond_eq ▸ atLeast)
          have covers : 2 ^ 34 * one < (2 ^ 53 - 1) * roundUnits one 1000 := by decide +kernel
          apply atMost_add_self
          · have scaled := Nat.mul_le_mul_left (2 ^ 53 - 1) fits
            omega
          · exact Nat.lt_of_le_of_lt bounded (mul_one_lt_unitsLimit (by decide))
  | infinite stepNegative =>
      cases stepNegative with
      | true => simp [isPositive] at positive
      | false => rfl
  | notANumber => simp [isPositive] at positive

end Clock

/-- A context that cannot be cancelled expires when its deadline is reached. -/
theorem Context.hasExpired_withTimeout_eq (clock : Clock) (timeout : Option Binary64)
    (requestId : Option String) (later : Clock) (raised : List Signal) :
    (withTimeout clock timeout requestId).hasExpired later raised =
      (withTimeout clock timeout).deadlineReached later := rfl

/-- A context whose timeout is a millisecond or more has not expired when it is set. -/
theorem Context.hasExpired_withTimeout (clock : Clock) {timeout : Option Binary64}
    (brief : ∀ seconds ∈ timeout, seconds.isPositive = true →
      Binary64.millisecond.atMost seconds = true)
    (requestId : Option String) (raised : List Signal) :
    (withTimeout clock timeout requestId).hasExpired clock raised = false := by
  rw [hasExpired_withTimeout_eq]
  cases timeout with
  | none => rfl
  | some seconds =>
      unfold deadlineReached withTimeout deadlineAfter
      cases positive : seconds.isPositive with
      | false => simp [positive]
      | true =>
          simp only [Option.bind_some, positive, if_true]
          exact clock.atMost_add positive (brief seconds rfl positive)

/-- An expired context stays expired while the clock ticks on and further signals are raised. -/
theorem Context.hasExpired_of_later {context : Context} {earlier later : Clock}
    {raised more : List Signal} (ticks : earlier.ticks ≤ later.ticks) (kept : raised ⊆ more)
    (expired : context.hasExpired earlier raised = true) :
    context.hasExpired later more = true := by
  unfold hasExpired at expired ⊢
  rw [Bool.or_eq_true] at expired ⊢
  rcases expired with cancelled | reached
  · refine .inl ?_
    unfold isCancelled at cancelled ⊢
    cases signal : context.signal with
    | none => simp [signal] at cancelled
    | some signalled =>
        simp only [signal, List.contains_iff_mem] at cancelled ⊢
        exact kept cancelled
  · refine .inr ?_
    unfold deadlineReached at reached ⊢
    cases deadline : context.deadline with
    | none => simp [deadline] at reached
    | some moment =>
        simp only [deadline] at reached ⊢
        exact Binary64.atMost_trans reached (Clock.atMost_seconds ticks)

end TokenAuthority
