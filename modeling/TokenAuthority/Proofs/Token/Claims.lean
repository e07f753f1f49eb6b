import TokenAuthority.Proofs.Json.Integer
import TokenAuthority.Proofs.Time.Seconds
import TokenAuthority.Proofs.Token.Check

/-!
The lifespan of a token, as its claims tell it.

Claims are whole seconds, and they are compared with a rounded clock.  A lifespan is current at an
instant if both comparisons hold.  Near 1970 that is so from the second of the issue on until the
second of the expiry; everywhere in the calendar it is so at the issue itself, provided that the
lifetime is not lost in rounding.
-/

namespace TokenAuthority.Claims

/-- Of two conditions that are checked in turn, both must hold. -/
theorem refuseUnless_bind (first second : Bool) :
    (refuseUnless first >>= fun _ => refuseUnless second) = refuseUnless (first && second) := by
  cases first <;> rfl

theorem checkInteger_of_absent {claims : List (Text × Json)} {name : String}
    (absent : Json.lookup? name claims = none) (test : Int → Bool) :
    checkInteger claims name test = .ok () := by
  unfold checkInteger
  rw [absent]

theorem checkInteger_of_int {claims : List (Text × Json)} {name : String} {seconds : Int}
    (found : Json.lookup? name claims = some (.int seconds)) (test : Int → Bool) :
    checkInteger claims name test = refuseUnless (test seconds) := by
  unfold checkInteger
  rw [found]
  rfl

namespace Lifespan

/-- The lifespan that begins with the current second. -/
def beginning (now lifetime : Int) : Lifespan :=
  ⟨Instant.floorToSecond now, Instant.floorToSecond now + lifetime⟩

/-- The instant at which a token expires according to its claims. -/
def expiry (lifespan : Lifespan) : Int :=
  wholeSecondsOf lifespan.expiresAt * microsecondsPerSecond

/-- Whether the claims of a lifespan hold at an instant: it has begun and not ended. -/
def isCurrent (lifespan : Lifespan) (now : Int) : Bool :=
  !isAfter (secondsOf now) (wholeSecondsOf lifespan.issuedAt) &&
    isAfter (secondsOf now) (wholeSecondsOf lifespan.expiresAt)

/-- Whether both dates of a lifespan lie in the calendar. -/
structure IsDated (lifespan : Lifespan) : Prop where
  issued : Instant.isInRange lifespan.issuedAt = true
  expires : Instant.isInRange lifespan.expiresAt = true

/-- Whether a lifespan that starts now has not ended yet.  A lifetime of one second may be lost in
rounding, except near 1970. -/
def Outlasts (now lifetime : Int) : Prop :=
  microsecondsPerSecond ≤ lifetime ∧ (IsNear now ∨ 2 * microsecondsPerSecond ≤ lifetime)

instance (now lifetime : Int) : Decidable (Outlasts now lifetime) :=
  inferInstanceAs (Decidable (_ ∧ (_ ∨ _)))

/-- Whether claims are made as required and tell a lifespan, with no audience and no other start. -/
structure IsToldBy (lifespan : Lifespan) (required : List String) (claims : List (Text × Json)) :
    Prop where
  made : required.all (isPresent claims) = true
  issued : Json.lookup? "iat" claims = some (.int (wholeSecondsOf lifespan.issuedAt))
  expires : Json.lookup? "exp" claims = some (.int (wholeSecondsOf lifespan.expiresAt))
  noStart : Json.lookup? "nbf" claims = none
  noAudience : Json.lookup? "aud" claims = none
  subject : Compact.isTextIfPresent "sub" claims = true
  identifier : Compact.isTextIfPresent "jti" claims = true

/-- Claims that tell a lifespan hold as long as it is current. -/
theorem IsToldBy.check_eq {required : List String} {claims : List (Text × Json)}
    {lifespan : Lifespan} (told : lifespan.IsToldBy required claims) (now : Int) :
    check required now claims = refuseUnless (lifespan.isCurrent now) := by
  have forAll : namesNoAudience claims = true := by
    unfold namesNoAudience
    rw [told.noAudience]
  unfold check isCurrent
  simp only [told.made, forAll, told.subject, told.identifier, checkInteger_of_int told.issued,
    checkInteger_of_int told.expires, checkInteger_of_absent told.noStart]
  rw [← refuseUnless_bind]
  cases isAfter (secondsOf now) (wholeSecondsOf lifespan.issuedAt) <;>
    cases isAfter (secondsOf now) (wholeSecondsOf lifespan.expiresAt) <;> rfl

theorem isShort_wholeSecondsOf {instant : Int} (inCalendar : Instant.isInRange instant = true) :
    Json.IsShort (wholeSecondsOf instant) := by
  have bounded := natAbs_wholeSecondsOf_le (isCounted_of_isInRange inCalendar)
  unfold Instant.isInRange Instant.least Instant.greatest at inCalendar
  rw [Bool.and_eq_true, decide_eq_true_eq, decide_eq_true_eq] at inCalendar
  have small : (wholeSecondsOf instant).natAbs < 10 ^ 12 := by
    unfold microsecondsPerSecond at bounded
    omega
  exact Json.isShort_of_lt (by decide) (by decide) small

theorem eq_beginning_of_starting? {now lifetime : Int} {lifespan : Lifespan}
    (begins : starting? now lifetime = some lifespan) :
    Instant.isInRange now = true ∧ Instant.isInRange (Instant.floorToSecond now + lifetime) = true ∧
      lifespan = beginning now lifetime := by
  unfold starting? Instant.after? at begins
  cases inCalendar : Instant.isInRange now with
  | false => simp [inCalendar] at begins
  | true =>
      cases endsInCalendar : Instant.isInRange (Instant.floorToSecond now + lifetime) with
      | false => simp [endsInCalendar] at begins
      | true =>
          simp only [inCalendar, endsInCalendar, if_true, Option.map_some, Option.some.injEq]
            at begins
          exact ⟨rfl, rfl, begins.symm⟩

section Beginning

variable {now lifetime : Int} (inCalendar : Instant.isInRange now = true)
  (endsInCalendar : Instant.isInRange (Instant.floorToSecond now + lifetime) = true)

include inCalendar endsInCalendar

theorem starting?_of_isInRange : starting? now lifetime = some (beginning now lifetime) := by
  unfold starting? Instant.after?
  simp only [inCalendar, endsInCalendar, if_true]
  rfl

theorem isDated_beginning : (beginning now lifetime).IsDated :=
  ⟨Instant.isInRange_floorToSecond inCalendar, endsInCalendar⟩

/-- A lifespan that outlasts the rounding is current from the start. -/
theorem isCurrent_beginning (outlasts : Outlasts now lifetime) :
    (beginning now lifetime).isCurrent now = true := by
  have counted := isCounted_of_isInRange inCalendar
  have begins : wholeSecondsOf (Instant.floorToSecond now) = now / microsecondsPerSecond :=
    Instant.wholeSecondsOf_floorToSecond (Instant.isInRange_floorToSecond inCalendar)
  have begun : isAfter (secondsOf now) (wholeSecondsOf (Instant.floorToSecond now)) = false := by
    apply not_isAfter_of_le counted
    rw [begins, ← Instant.floorToSecond_eq]
    exact Instant.floorToSecond_le now
  have nextSecond : now ≤ (now / microsecondsPerSecond + 1) * microsecondsPerSecond := by
    have next := Instant.lt_floorToSecond_add now
    rw [Instant.floorToSecond_eq] at next
    rw [Int.add_mul, Int.one_mul]
    exact Int.le_of_lt next
  have passes : ∀ seconds : Int, seconds * microsecondsPerSecond ≤ lifetime →
      now / microsecondsPerSecond + seconds ≤
        wholeSecondsOf (Instant.floorToSecond now + lifetime) := by
    intro seconds fits
    apply le_wholeSecondsOf (isCounted_of_isInRange endsInCalendar)
    rw [Int.add_mul, ← Instant.floorToSecond_eq]
    exact Int.add_le_add_left fits _
  have ahead : isAfter (secondsOf now)
      (wholeSecondsOf (Instant.floorToSecond now + lifetime)) = true := by
    obtain ⟨oneSecond, near | twoSeconds⟩ := outlasts
    · have atLeast := passes 1 (by rwa [Int.one_mul])
      rw [isAfter_secondsOf near, decide_eq_true_eq]
      have next := Instant.lt_floorToSecond_add now
      rw [Instant.floorToSecond_eq] at next
      unfold microsecondsPerSecond at *
      omega
    · have atLeast := passes 2 twoSeconds
      exact isAfter_of_le counted nextSecond (by omega)
  unfold isCurrent beginning
  rw [begun, ahead]
  rfl

end Beginning

section Whole

variable {now seconds : Int}

theorem expiresAt_beginning :
    (beginning now (seconds * microsecondsPerSecond)).expiresAt =
      (now / microsecondsPerSecond + seconds) * microsecondsPerSecond := by
  unfold beginning
  rw [Instant.floorToSecond_eq, Int.add_mul]

/-- A lifetime of whole seconds ends on a whole second, which is told exactly. -/
theorem wholeSecondsOf_expiresAt
    (dated : (beginning now (seconds * microsecondsPerSecond)).IsDated) :
    wholeSecondsOf (beginning now (seconds * microsecondsPerSecond)).expiresAt =
      now / microsecondsPerSecond + seconds := by
  have counted := isCounted_of_isInRange dated.expires
  rw [expiresAt_beginning] at counted ⊢
  exact wholeSecondsOf_mul counted

end Whole

section Near

variable {now : Int} (near : IsNear now)

include near

theorem starting?_of_near {lifetime : Int}
    (nearEnd : IsNear (Instant.floorToSecond now + lifetime)) :
    starting? now lifetime = some (beginning now lifetime) :=
  starting?_of_isInRange near.isInRange nearEnd.isInRange

/-- At a near instant the claims of a lifespan hold from the second of its begin on, and until the
second of its end. -/
theorem isCurrent_of_near (lifespan : Lifespan) :
    lifespan.isCurrent now =
      (decide (wholeSecondsOf lifespan.issuedAt * microsecondsPerSecond ≤ now) &&
        decide (now < lifespan.expiry)) := by
  unfold isCurrent expiry
  rw [isAfter_secondsOf near, isAfter_secondsOf near, ← decide_not]
  simp only [Int.not_lt]

end Near

/-- A near lifespan is current from the second with which it begins until the whole second, counted
towards zero, in which it ends. -/
theorem isCurrent_beginning_iff {issued lifetime now : Int} (near : IsNear issued)
    (nearEnd : IsNear (Instant.floorToSecond issued + lifetime)) (nearNow : IsNear now) :
    (beginning issued lifetime).isCurrent now = true ↔
      Instant.floorToSecond issued ≤ now ∧
        now < (Instant.floorToSecond issued + lifetime).tdiv microsecondsPerSecond *
          microsecondsPerSecond := by
  have begins : wholeSecondsOf (Instant.floorToSecond issued) * microsecondsPerSecond =
      Instant.floorToSecond issued := by
    rw [Instant.wholeSecondsOf_floorToSecond (Instant.floorToSecond_near near).isInRange,
      ← Instant.floorToSecond_eq]
  rw [isCurrent_of_near nearNow, Bool.and_eq_true, decide_eq_true_eq, decide_eq_true_eq]
  unfold expiry beginning
  rw [begins, wholeSecondsOf_near nearEnd]

end Lifespan

end TokenAuthority.Claims
