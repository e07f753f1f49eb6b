import TokenAuthority.Proofs.Libraries
import TokenAuthority.Service.TokenService

/-!
How verification may fail.

The steps of a verification break off in many ways, and only some of these are expected of the kind
of token that is verified.  A chain of steps breaks off as expected if each of its steps does, and a
step may rely on what the steps before it have found: claims that are required are there when they
are asked for, and integers too large to be converted are refused together with the claim.  So each
kind of token is either verified or told to be invalid.
-/

namespace TokenAuthority

/-! ### Claims -/

namespace Claims

variable {kind : TokenKind}

theorem failsAsExpected_trusted (key : Compact.VerificationKey) (required : List String) (now : Int)
    (token : Text) : FailsAsExpected kind (trusted key required now token) := by
  unfold trusted
  cases Compact.open? key token with
  | none => exact .error rfl
  | some claims =>
      apply FailsAsExpected.bind (tokenLibrary.fails kind required now claims)
      intro _ _
      exact .ok claims

/-- Claims that are handed back were read from the token and checked. -/
theorem trusted_eq_ok_iff {key : Compact.VerificationKey} {required : List String} {now : Int}
    {token : Text} {claims : List (Text × Json)} :
    trusted key required now token = .ok claims ↔
      Compact.open? key token = some claims ∧ check required now claims = .ok () := by
  unfold trusted
  cases Compact.open? key token with
  | none => simp
  | some found =>
      rw [Option.some.injEq]
      constructor
      · intro checked
        obtain ⟨_, isChecked, isFound⟩ := exists_of_bind_eq_ok checked
        obtain rfl := Except.ok.inj isFound
        exact ⟨rfl, isChecked⟩
      · rintro ⟨rfl, isChecked⟩
        simp only [isChecked]
        rfl

/-- A claim that is there can be asked for. -/
theorem exists_demand_of_isPresent {claims : List (Text × Json)} {name : String}
    (present : isPresent claims name = true) : ∃ value, demand claims name = .ok value := by
  unfold isPresent at present
  unfold demand
  cases found : Json.lookup? name claims with
  | none =>
      rw [found] at present
      cases present
  | some value => exact ⟨value, rfl⟩

/-- Asking for a required claim never fails once the claims are trusted. -/
theorem failsAsExpected_demand {key : Compact.VerificationKey} {required : List String}
    {now : Int} {token : Text} {claims : List (Text × Json)}
    (areTrusted : trusted key required now token = .ok claims) {name : String}
    (isRequired : name ∈ required) : FailsAsExpected kind (demand claims name) := by
  have hold := (tokenLibrary.holds _ _ _).mp (trusted_eq_ok_iff.mp areTrusted).2
  obtain ⟨value, found⟩ := exists_demand_of_isPresent (hold.made name isRequired)
  rw [found]
  exact .ok value

end Claims

/-! ### Tokens -/

theorem IdentityToken.failsAsExpected_verify (token : Text) (key : Rsa.PublicKey) (now : Int) :
    FailsAsExpected .identity (verify token key now) := by
  apply FailsAsExpected.bind (Claims.failsAsExpected_trusted _ _ _ _)
  intro claims areTrusted
  apply FailsAsExpected.bind (Claims.failsAsExpected_demand areTrusted (by decide))
  intro user _ fault failed
  obtain ⟨problems, -, rfl⟩ := exists_of_mapError_eq_error failed
  rfl

namespace RefreshToken

theorem failsAsExpected_userOf (value : Json) : FailsAsExpected .refresh (userOf value) := by
  unfold userOf
  split
  · split
    · exact .ok _
    · exact .error rfl
  · exact .error rfl

theorem failsAsExpected_verify (token secret : Text) (now : Int) :
    FailsAsExpected .refresh (verify token secret now) := by
  apply FailsAsExpected.bind (Claims.failsAsExpected_trusted _ _ _ _)
  intro claims areTrusted
  apply FailsAsExpected.bind (Claims.failsAsExpected_demand areTrusted (by decide))
  intro user _
  apply FailsAsExpected.bind (failsAsExpected_userOf user)
  intro part _
  apply FailsAsExpected.bind (Claims.failsAsExpected_demand areTrusted (by decide))
  intro id _
  apply FailsAsExpected.bind (.elim rfl)
  intro spelled _
  exact .ok _

end RefreshToken

/-! ### Verdicts -/

namespace Verdict

variable {α : Type}

/-- The verdict on what is verified or not, for whatever reason. -/
def ofOption : Option α → Verdict α
  | some value => .trusted value
  | none => .untrusted

/-- A verification that fails as expected only never breaks down. -/
theorem ofVerified_eq {kind : TokenKind} {result : Except VerificationFault α}
    (expected : FailsAsExpected kind result) :
    ofVerified kind result = ofOption result.toOption := by
  cases result with
  | ok value => rfl
  | error fault =>
      unfold ofVerified
      simp only [expected fault rfl]
      rfl

theorem ofVerified_identity (token : Text) (key : Rsa.PublicKey) (now : Int) :
    ofVerified .identity (IdentityToken.verify token key now) =
      ofOption (IdentityToken.verify? token (some key) now) :=
  ofVerified_eq (IdentityToken.failsAsExpected_verify token key now)

theorem ofVerified_refresh (token secret : Text) (now : Int) :
    ofVerified .refresh (RefreshToken.verify token secret now) =
      ofOption (RefreshToken.verify? token secret now) :=
  ofVerified_eq (RefreshToken.failsAsExpected_verify token secret now)

end Verdict

end TokenAuthority
