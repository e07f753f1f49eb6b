import TokenAuthority.Proofs.Service.Rotation
import TokenAuthority.Proofs.Token.Verification

/-!
Validation and sign-out.

Validation only looks at the clocks, the signals and the token, and leaves nothing behind but
reports.  A sign-out is refused or removes all tokens of its user.
-/

namespace TokenAuthority.TokenService

open Call

def judged {α : Type} (kind : TokenKind) : Verdict α → Except Failure α
  | .trusted value => .ok value
  | .untrusted => .error (.service (.invalidToken kind))
  | .broken _ => .error (.service .verificationFailed)

def validated {α : Type} (service : TokenService) (context : Option Context) (kind : TokenKind)
    (check : Int → Verdict α) (world : World) : Except Failure α :=
  if (service.resolve context).hasExpired world.clock world.raised then
    .error (.service (.deadlinePassed ("validating " ++ kind.word ++ " token")))
  else judged kind (check world.clock.wall)

theorem runIn_judge {α : Type} (kind : TokenKind) (verdict : Verdict α) (world : World) :
    ∃ reports, runIn (judge kind verdict) world =
      (judged kind verdict, world.withReports reports) := by
  cases verdict <;> exact ⟨_, rfl⟩

theorem runIn_validate {α : Type} (service : TokenService) (context : Option Context)
    (kind : TokenKind) (check : Int → Verdict α) (world : World) :
    ∃ reports, runIn (service.validate context kind check) world =
      (service.validated context kind check world, world.withReports reports) := by
  unfold validate validated
  cases expiry : (service.resolve context).hasExpired world.clock world.raised with
  | true => exact ⟨world.reports, runIn_bind_of_error (runIn_ensureActive_of_expired expiry _) _⟩
  | false =>
      obtain ⟨reports, ran⟩ := runIn_judge kind (check world.clock.wall) world
      refine ⟨reports, ?_⟩
      rw [runIn_bind_of_ok (runIn_ensureActive expiry _), runIn_bind_of_ok (runIn_get world), ran]
      rfl

/-- The user of a presented identity token, or why it is refused. -/
def validatedIdentity (service : TokenService) (context : Option Context) (token : Text) :
    World → Except Failure UserSnapshot :=
  service.validated context .identity fun now =>
    .ofOption (IdentityToken.verify? token (some service.policy.publicKey) now)

/-- What a presented refresh token names, or why it is refused. -/
def validatedRefresh (service : TokenService) (context : Option Context) (token : Text) :
    World → Except Failure RefreshClaims :=
  service.validated context .refresh fun now =>
    .ofOption (RefreshToken.verify? token service.policy.secret now)

/-- What an active call makes of a presented refresh token. -/
theorem validatedRefresh_of_active {service : TokenService} {context : Option Context}
    {world : World}
    (active : (service.resolve context).hasExpired world.clock world.raised = false)
    (token : Text) :
    service.validatedRefresh context token world =
      match RefreshToken.verify? token service.policy.secret world.clock.wall with
      | none => .error (.service (.invalidToken .refresh))
      | some claims => .ok claims := by
  unfold validatedRefresh validated
  rw [active, if_neg Bool.false_ne_true]
  beta_reduce
  cases RefreshToken.verify? token service.policy.secret world.clock.wall <;> rfl

/-- What is trusted was verified, while the call was active. -/
theorem of_validated_eq_ok {α : Type} {service : TokenService} {context : Option Context}
    {kind : TokenKind} {check : Int → Option α} {world : World} {value : α}
    (trusted : service.validated context kind (fun now => .ofOption (check now)) world =
      .ok value) :
    (service.resolve context).hasExpired world.clock world.raised = false ∧
      check world.clock.wall = some value := by
  unfold validated at trusted
  split at trusted
  · cases trusted
  · next active =>
      refine ⟨Bool.not_eq_true _ ▸ active, ?_⟩
      simp only at trusted
      cases checked : check world.clock.wall with
      | none =>
          rw [checked] at trusted
          cases trusted
      | some other =>
          rw [checked] at trusted
          cases trusted
          rfl

theorem runIn_validateIdentity (service : TokenService) (context : Option Context) (token : Text)
    (world : World) :
    ∃ reports, runIn (service.validateIdentity context token) world =
      (service.validatedIdentity context token world, world.withReports reports) := by
  unfold validateIdentity
  simp only [Verdict.ofVerified_identity]
  exact runIn_validate service context .identity _ world

theorem runIn_validateRefresh (service : TokenService) (context : Option Context) (token : Text)
    (world : World) :
    ∃ reports, runIn (service.validateRefresh context token) world =
      (service.validatedRefresh context token world, world.withReports reports) := by
  unfold validateRefresh
  simp only [Verdict.ofVerified_refresh]
  exact runIn_validate service context .refresh _ world

/-- Why a sign-out is refused in a world without faults. -/
def signOutRefusal? (service : TokenService) (context : Option Context) (user : Text)
    (world : World) : Option Failure :=
  if StoreKey.isPart user = false then some (.service .invalidUserId)
  else if (service.resolve context).hasExpired world.clock world.raised then
    some (.service (.deadlinePassed "revoking refresh tokens"))
  else if world.store.takes user = false then some .unencodable
  else none

variable {service : TokenService} {context : Option Context} {user : Text} {world : World}

theorem signOutRefusal?_eq_none_iff :
    service.signOutRefusal? context user world = none ↔ StoreKey.isPart user = true ∧
      (service.resolve context).hasExpired world.clock world.raised = false ∧
      world.store.takes user = true := by
  unfold signOutRefusal?
  cases StoreKey.isPart user <;>
    cases (service.resolve context).hasExpired world.clock world.raised <;>
    cases world.store.takes user <;> simp

theorem runIn_signOut_of_refused (sound : world.faults = {}) {failure : Failure}
    (refusal : service.signOutRefusal? context user world = some failure) :
    ∃ reports, runIn (service.signOut context user) world =
      (.error failure, world.withReports reports) := by
  unfold signOutRefusal? at refusal
  unfold signOut
  cases part : StoreKey.isPart user with
  | false =>
      rw [if_pos part, Option.some.injEq] at refusal
      obtain ⟨reports, ran⟩ := runIn_checkUser_of_not_isPart part world
      exact ⟨reports, by rw [runIn_bind_of_error ran, refusal]⟩
  | true =>
      rw [if_neg (by simp [part])] at refusal
      rw [runIn_bind_of_ok (runIn_checkUser part world)]
      split at refusal
      · next expired =>
          rw [Option.some.injEq] at refusal
          refine ⟨world.reports, ?_⟩
          rw [runIn_bind_of_error (runIn_ensureActive_of_expired expired _), refusal]
          rfl
      · next active =>
          split at refusal
          · next refuses =>
              rw [Option.some.injEq] at refusal
              refine ⟨world.reports, ?_⟩
              rw [runIn_bind_of_ok (runIn_ensureActive (Bool.not_eq_true _ ▸ active) _),
                runIn_bind_of_error
                  (StoreAccess.runIn_deleteAll_of_not_takes sound part refuses), refusal]
              rfl
          · exact absurd refusal (by simp)

theorem runIn_signOut (sound : world.faults = {})
    (allowed : service.signOutRefusal? context user world = none) :
    ∃ reports, runIn (service.signOut context user) world =
      (.ok (world.store.countFrom world.clock (StoreKey.userStart user)),
        (world.clearing user).withReports reports) := by
  obtain ⟨userPart, active, taken⟩ := signOutRefusal?_eq_none_iff.mp allowed
  unfold signOut
  rw [runIn_bind_of_ok (runIn_checkUser userPart world),
    runIn_bind_of_ok (runIn_ensureActive active _),
    runIn_bind_of_ok (StoreAccess.runIn_deleteAll userPart sound taken),
    runIn_bind_of_ok (runIn_report _ _)]
  exact ⟨_, rfl⟩

end TokenAuthority.TokenService
