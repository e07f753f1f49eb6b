import TokenAuthority.Proofs.Service.Issuing
import TokenAuthority.Proofs.Service.Run

/-!
Chains of rotations.

A chain begins with a sign-in.  Each of its links presents the signed text of the current refresh
token, validates it, and exchanges what it names for the next pair.  A chain is timely if its calls
are active, its dates are near 1970, and every token is exchanged before it ends.
-/

namespace TokenAuthority

/-- The identifier that is drawn after a number of further draws. -/
def World.idAfter (world : World) (drawn : Nat) : TokenId :=
  world.ids.token (world.tokensDrawn + drawn)

/-- The key under which that identifier is registered for a user. -/
def World.keyAfter (world : World) (user : Text) (drawn : Nat) : Text :=
  StoreKey.join user (world.idAfter drawn).text

namespace TokenService

/-- The lifespan of a refresh token that is issued at a reading of the clocks. -/
def lifespanAt (service : TokenService) (clock : Clock) : Claims.Lifespan :=
  .beginning clock.wall service.policy.refreshLifetime

/-- The seconds for which such a token is registered. -/
def registeredSeconds (service : TokenService) (clock : Clock) : Int :=
  Duration.storeSeconds ((service.lifespanAt clock).expiresAt - clock.wall)

end TokenService

namespace Chain

open Call

/-! ### Chains -/

/-- A call for a pair: its context, and what happens while its token is registered. -/
structure Issue where
  context : Option Context := none
  /-- Milliseconds that pass. -/
  elapsed : Nat := 0
  /-- Signals that callers raise. -/
  raised : List Signal := []

/-- A link of a chain: the current token is validated, and then exchanged for the next one. -/
structure Link extends Issue where
  /-- Milliseconds that pass before the validation. -/
  wait : Nat := 0
  validation : Option Context := none
  /-- Milliseconds that pass between the validation and the exchange. -/
  pause : Nat := 0

def Issue.run (issue : Issue) (service : TokenService) (user : UserSnapshot) (previous : Text) :
    Call TokenPair := do
  modify (·.disturbed issue.elapsed issue.raised)
  service.newPair issue.context user previous

/-- The world in which a call settles its new token with the store. -/
def Issue.calling (issue : Issue) (world : World) : World :=
  (world.disturbed issue.elapsed issue.raised).drawing

def Link.run (link : Link) (service : TokenService) (user : UserSnapshot)
    (current : RefreshToken) : Call (RefreshClaims × TokenPair) := do
  modify (·.advance link.wait)
  let claims ← service.validateRefresh link.validation current.signed
  modify (·.advance link.pause)
  let pair ← link.toIssue.run service user claims.token.text
  return (claims, pair)

/-- What the links of a chain answer, from a current token on. -/
def runLinks (service : TokenService) (user : UserSnapshot) :
    List Link → RefreshToken → Call (List (RefreshClaims × TokenPair))
  | [], _ => return []
  | link :: rest, current => do
      let answer ← link.run service user current
      let answers ← runLinks service user rest answer.2.refresh
      return answer :: answers

/-- What a sign-in answers, and what the links after it do. -/
def run (service : TokenService) (user : UserSnapshot) (signIn : Issue) (links : List Link) :
    Call (TokenPair × List (RefreshClaims × TokenPair)) := do
  let first ← signIn.run service user []
  let answers ← runLinks service user links first.refresh
  return (first, answers)

/-! ### Timely chains -/

/-- When a token was issued, and for how many milliseconds it has been held since. -/
structure Tenure where
  issued : Clock
  held : Nat

namespace Tenure

def now (tenure : Tenure) : Clock :=
  tenure.issued.advance tenure.held

def after (tenure : Tenure) (milliseconds : Nat) : Tenure :=
  ⟨tenure.issued, tenure.held + milliseconds⟩

@[simp]
theorem issued_after (tenure : Tenure) (milliseconds : Nat) :
    (tenure.after milliseconds).issued = tenure.issued := rfl

theorem now_after (tenure : Tenure) (milliseconds : Nat) :
    (tenure.after milliseconds).now = tenure.now.advance milliseconds := by
  unfold now after Clock.advance
  simp only [Nat.cast_add, Clock.mk.injEq]
  omega

theorem issued_le_now (tenure : Tenure) : tenure.issued.wall ≤ tenure.now.wall := by
  unfold now Clock.advance
  simp only
  omega

/-- Whether a token that has been held so long is registered still. -/
def IsCovered (tenure : Tenure) (service : TokenService) : Prop :=
  (tenure.held : Int) < service.registeredSeconds tenure.issued * 1000

instance (tenure : Tenure) (service : TokenService) : Decidable (tenure.IsCovered service) :=
  inferInstanceAs (Decidable (_ < _))

theorem IsCovered.of_after {tenure : Tenure} {milliseconds : Nat} {service : TokenService}
    (covered : (tenure.after milliseconds).IsCovered service) : tenure.IsCovered service := by
  unfold IsCovered at covered ⊢
  have held : (tenure.after milliseconds).held = tenure.held + milliseconds := rfl
  rw [held, Tenure.issued_after] at covered
  omega

end Tenure

/-- Whether a call can succeed at a reading of the clocks: it is active from its begin until its
token is registered, and all dates are near 1970. -/
structure Issue.Fits (issue : Issue) (service : TokenService) (clock : Clock)
    (raised : List Signal) : Prop where
  active : (service.resolve issue.context).hasExpired clock raised = false
  stillActive : (service.resolve issue.context).hasExpired (clock.advance issue.elapsed)
    (issue.raised ++ raised) = false
  near : IsNear clock.wall
  identityNear : IsNear (Instant.floorToSecond clock.wall + service.policy.identityLifetime)
  refreshNear : IsNear (Instant.floorToSecond clock.wall + service.policy.refreshLifetime)

theorem Issue.Fits.isDatedAt {issue : Issue} {service : TokenService} {clock : Clock}
    {raised : List Signal} (fits : issue.Fits service clock raised) :
    service.IsDatedAt clock.wall :=
  ⟨fits.near.isInRange, fits.identityNear.isInRange, fits.refreshNear.isInRange⟩

namespace Link

def validatedAt (link : Link) (tenure : Tenure) : Tenure :=
  tenure.after link.wait

def exchangedAt (link : Link) (tenure : Tenure) : Tenure :=
  (link.validatedAt tenure).after link.pause

/-- The tenure of the token that a link ends with. -/
def next (link : Link) (tenure : Tenure) : Tenure :=
  ⟨(link.exchangedAt tenure).now, link.elapsed⟩

/-- Whether a link can succeed: it is active, validates the current token before the token expires,
and removes it while it is registered. -/
structure Fits (link : Link) (service : TokenService) (tenure : Tenure) (raised : List Signal) :
    Prop where
  validating : (service.resolve link.validation).hasExpired (link.validatedAt tenure).now raised =
    false
  unexpired : (link.validatedAt tenure).now.wall < (service.lifespanAt tenure.issued).expiry
  exchanging : link.toIssue.Fits service (link.exchangedAt tenure).now raised
  covered : ((link.exchangedAt tenure).after link.elapsed).IsCovered service

end Link

/-- Whether all links can succeed, one after the other, and end before the last token does. -/
def Timely (service : TokenService) : Tenure → List Signal → List Link → Prop
  | tenure, _, [] => tenure.IsCovered service
  | tenure, raised, link :: rest =>
      link.Fits service tenure raised ∧
        Timely service (link.next tenure) (link.raised ++ raised) rest

/-- A chain is timely at every point that it passes. -/
theorem Timely.of_append {service : TokenService} {tenure : Tenure} {raised : List Signal}
    {passed rest : List Link} (timely : Timely service tenure raised (passed ++ rest)) :
    Timely service tenure raised passed := by
  induction passed generalizing tenure raised with
  | nil =>
      cases rest with
      | nil => exact timely
      | cons link rest => exact timely.1.covered.of_after.of_after.of_after
  | cons link passed inductionHypothesis =>
      exact ⟨timely.1, inductionHypothesis timely.2⟩

def lastTenure (tenure : Tenure) (links : List Link) : Tenure :=
  links.foldl (fun current link => link.next current) tenure

/-- Whether the identifiers up to a number of draws are new, to each other and to a user's store. -/
structure Fresh (start : World) (user : Text) (last : Nat) : Prop where
  distinct : ∀ first ≤ last, ∀ second ≤ last, start.idAfter first = start.idAfter second →
    first = second
  unregistered : ∀ drawn ≤ last, ¬start.IsLive user (start.idAfter drawn).text

theorem Fresh.keyAfter_ne {start : World} {user : Text} {last first second : Nat}
    (fresh : Fresh start user last) (userPart : StoreKey.isPart user = true)
    (inFirst : first ≤ last) (inSecond : second ≤ last) (differ : first ≠ second) :
    start.keyAfter user first ≠ start.keyAfter user second := by
  unfold World.keyAfter
  rw [ne_eq, StoreKey.join_eq_join_iff userPart (TokenId.isPart_text _), TokenId.text_inj]
  exact fun equal => differ (fresh.distinct first inFirst second inSecond equal.2)

theorem Fresh.mono {start : World} {user : Text} {last earlier : Nat}
    (fresh : Fresh start user last) (order : earlier ≤ last) : Fresh start user earlier where
  distinct := fun first inFirst second inSecond =>
    fresh.distinct first (Nat.le_trans inFirst order) second (Nat.le_trans inSecond order)
  unregistered := fun drawn inRange => fresh.unregistered drawn (Nat.le_trans inRange order)

end Chain

end TokenAuthority
