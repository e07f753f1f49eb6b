import TokenAuthority.Proofs.Json.Integer
import TokenAuthority.Proofs.Token.Fault
import TokenAuthority.Token.Claims

/-!
Which claims hold.

Claims hold at an instant if those that are required are made, the dates among them are integers
that admit the instant, and the others are of the kinds that they should be.  Whatever stands in
them, they hold or are refused by a fault that is expected of every kind of token.
-/

namespace TokenAuthority.Claims

/-- Whether a claim is not made, or made by an integer that passes a test. -/
def Passes (claims : List (Text × Json)) (name : String) (test : Int → Bool) : Prop :=
  ∀ value, Json.lookup? name claims = some value →
    ∃ seconds, value.toInteger = .ok seconds ∧ test seconds = true

/-- Whether claims are made as required and hold at an instant. -/
structure Hold (required : List String) (now : Int) (claims : List (Text × Json)) : Prop where
  made : ∀ name ∈ required, isPresent claims name = true
  issued : Passes claims "iat" fun seconds => !isAfter (secondsOf now) seconds
  begun : Passes claims "nbf" fun seconds => !isAfter (secondsOf now) seconds
  notEnded : Passes claims "exp" (isAfter (secondsOf now))
  forAll : namesNoAudience claims = true
  subject : Compact.isTextIfPresent "sub" claims = true
  identifier : Compact.isTextIfPresent "jti" claims = true

theorem refuseUnless_eq_ok_iff {holds : Bool} : refuseUnless holds = .ok () ↔ holds = true := by
  cases holds <;> simp [refuseUnless]

theorem checkInteger_eq_ok_iff {claims : List (Text × Json)} {name : String} {test : Int → Bool} :
    checkInteger claims name test = .ok () ↔ Passes claims name test := by
  unfold checkInteger Passes
  cases Json.lookup? name claims with
  | none => simp
  | some value =>
      simp only [Option.some.injEq, forall_eq']
      cases value.toInteger with
      | ok seconds => simp [refuseUnless_eq_ok_iff]
      | error fault => cases fault <;> simp

/-- Steps in turn go well if each of them does. -/
theorem bind_eq_ok_iff {first : Except VerificationFault Unit}
    {next : Unit → Except VerificationFault Unit} :
    (first >>= next) = .ok () ↔ first = .ok () ∧ next () = .ok () := by
  cases first with
  | ok value => simp
  | error fault =>
      refine iff_of_false ?_ (by simp)
      intro computed
      cases computed

/-- Claims pass the check exactly if they hold. -/
theorem check_eq_ok_iff {required : List String} {now : Int} {claims : List (Text × Json)} :
    check required now claims = .ok () ↔ Hold required now claims := by
  unfold check
  simp only [bind_eq_ok_iff, refuseUnless_eq_ok_iff, checkInteger_eq_ok_iff, List.all_eq_true]
  constructor
  · rintro ⟨made, issued, begun, notEnded, forAll, subject, identifier⟩
    exact ⟨made, issued, begun, notEnded, forAll, subject, identifier⟩
  · rintro ⟨made, issued, begun, notEnded, forAll, subject, identifier⟩
    exact ⟨made, issued, begun, notEnded, forAll, subject, identifier⟩

/-! ### Faults -/

variable {kind : TokenKind}

theorem failsAsExpected_refuseUnless (holds : Bool) :
    FailsAsExpected kind (refuseUnless holds) := by
  cases holds with
  | false => exact .error rfl
  | true => exact .ok ()

/-- Whatever stands in a claim that should be an integer, the claim is checked or refused. -/
theorem failsAsExpected_checkInteger (claims : List (Text × Json)) (name : String)
    (test : Int → Bool) : FailsAsExpected kind (checkInteger claims name test) := by
  unfold checkInteger
  cases Json.lookup? name claims with
  | none => exact .ok ()
  | some value =>
      cases converted : value.toInteger with
      | ok seconds =>
          simp only [converted]
          exact failsAsExpected_refuseUnless (test seconds)
      | error fault =>
          cases fault with
          | wrongKind => simpa only [converted] using .error rfl
          | badValue => simpa only [converted] using .error rfl
          | outOfRange => simpa only [converted] using .error rfl

/-- An infinite number is refused with the claim that holds it. -/
example : checkInteger [("exp", .float (.infinite false))] "exp" (fun _ => true) =
    .error .refused := by
  decide

theorem failsAsExpected_check (required : List String) (now : Int)
    (claims : List (Text × Json)) : FailsAsExpected kind (check required now claims) := by
  unfold check
  apply FailsAsExpected.bind (failsAsExpected_refuseUnless _)
  intro _ _
  apply FailsAsExpected.bind (failsAsExpected_checkInteger _ _ _)
  intro _ _
  apply FailsAsExpected.bind (failsAsExpected_checkInteger _ _ _)
  intro _ _
  apply FailsAsExpected.bind (failsAsExpected_checkInteger _ _ _)
  intro _ _
  apply FailsAsExpected.bind (failsAsExpected_refuseUnless _)
  intro _ _
  apply FailsAsExpected.bind (failsAsExpected_refuseUnless _)
  intro _ _
  exact failsAsExpected_refuseUnless _

end TokenAuthority.Claims
