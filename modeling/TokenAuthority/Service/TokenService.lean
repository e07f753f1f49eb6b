import TokenAuthority.Service.StoreAccess
import TokenAuthority.Token.Identity
import TokenAuthority.Token.Refresh

/-!
The token service.

It issues pairs of an identity and a refresh token, rotates refresh tokens, verifies both kinds and
signs users out.  A refresh token counts while it is registered in the store; rotation registers the
new token first and then removes the previous one, whose removal succeeds exactly once.  When the
previous token is gone or cannot be removed, the new one is removed again.  Before every step that
changes the store the caller's deadline is checked.
-/

namespace TokenAuthority

/-- Keys, secret and lifetimes, in microseconds, by which tokens are issued. -/
structure TokenPolicy where
  privateKey : Rsa.PrivateKey
  publicKey : Rsa.PublicKey
  secret : Text
  identityLifetime : Int
  refreshLifetime : Int
deriving DecidableEq, Repr

structure TokenPair where
  identity : IdentityToken
  refresh : RefreshToken
deriving DecidableEq, Repr

inductive Verdict (α : Type) where
  | trusted (value : α)
  | untrusted
  /-- The check itself broke down, by a fault of some kind. -/
  | broken (fault : String)
deriving Repr

/-- The verdict on a token of some kind, of which some faults are expected. -/
def Verdict.ofVerified {α : Type} (kind : TokenKind) : Except VerificationFault α → Verdict α
  | .ok value => .trusted value
  | .error fault =>
      match fault.unexpected? kind with
      | none => .untrusted
      | some name => .broken name

/-- The service: a policy, and the context of calls that come without one. -/
structure TokenService where
  policy : TokenPolicy
  defaultContext : Context := {}
deriving DecidableEq, Repr

namespace TokenService

def logger : String := "account_tokens.services.tokens.service"

def codecLogger : String := "account_tokens.services.tokens.codec"

def resolve (service : TokenService) (context : Option Context) : Context :=
  context.getD service.defaultContext

def note (severity : Log.Severity) (message : String) (user : Text) (token : Option Text := none) :
    Call Unit :=
  Call.report
    { severity, logger, message,
      subject := ("user_id", .text user) ::
        (match token with
          | some token => [("token_id", .text token)]
          | none => []) }

def ensureActive (context : Context) (step : String) : Call Unit := do
  let world ← get
  if context.hasExpired world.clock world.raised then Call.fail (.deadlinePassed step)

def checkUser (user : Text) : Call Unit := do
  if !StoreKey.isPart user then
    note .error "User id cannot key the revocation store" user
    Call.fail .invalidUserId

/-- Refuse a previous token whose identifier is not canonical; the empty one stands for none. -/
def checkPrevious (user previous : Text) : Call Unit := do
  if !previous.isEmpty && !TokenId.isCanonical previous then
    note .info "Rejected malformed previous refresh token id" user (some previous)
    Call.fail (.invalidToken .refresh)

def noteSigning {α : Type} (user : Text) (kind : TokenKind) (issued : Except Failure α) :
    Call α :=
  match issued with
  | .ok value => return value
  | .error failure => do
      match failure with
      | .service _ =>
          Call.report
            { severity := .error, logger := codecLogger,
              message := "Failed to sign " ++ kind.word ++ " token",
              subject := [("user_id", .text user)] }
      | _ => pure ()
      throw failure

def issueIdentity (service : TokenService) (user : UserSnapshot) : Call IdentityToken := do
  let world ← get
  noteSigning user.id .identity
    (IdentityToken.issue user (some service.policy.privateKey) service.policy.identityLifetime
      world.clock.wall)

def issueRefresh (service : TokenService) (user : Text) : Call RefreshToken := do
  let id ← Call.drawTokenId
  let world ← get
  noteSigning user .refresh
    (RefreshToken.issue user service.policy.secret id service.policy.refreshLifetime
      world.clock.wall)

def register (context : Context) (user : Text) (issued : RefreshToken) : Call Unit := do
  ensureActive context "registering refresh token"
  let world ← get
  StoreAccess.put user issued.id.text (issued.timeLeft world.clock.wall)

/-- Remove a token that a failed rotation registered; failing to is not fatal, since the entry has a
deadline. -/
def rollBack (user : Text) (issued : RefreshToken) : Call Unit := do
  try
    let _ ← StoreAccess.delete user issued.id.text
  catch failure =>
    match failure with
    | .service _ =>
        note .error "Could not roll back refresh token; it expires with its TTL" user
          (some issued.id.text)
    | _ => throw failure

def ensureStillWanted (context : Context) (user : Text) (issued : RefreshToken) : Call Unit := do
  try ensureActive context "deleting previous refresh token"
  catch failure =>
    note .warning "Deadline hit after registering refresh token; leaving it orphaned" user
      (some issued.id.text)
    throw failure

/-- Remove the previous token; when its removal fails, the new one is removed as well. -/
def removePrevious (user previous : Text) (issued : RefreshToken) : Call Nat := do
  try StoreAccess.delete user previous
  catch failure =>
    match failure with
    | .service _ =>
        note .error "Could not delete previous refresh token" user (some previous)
        rollBack user issued
    | _ => pure ()
    throw failure

def consumePrevious (context : Context) (user previous : Text) (issued : RefreshToken) :
    Call Unit := do
  ensureStillWanted context user issued
  let removed ← removePrevious user previous issued
  if removed = 0 then
    note .info "Previous refresh token does not exist" user (some previous)
    rollBack user issued
    Call.fail (.invalidToken .refresh)

/-- Issue a pair of tokens; unless the previous token is empty, it is consumed. -/
def newPair (service : TokenService) (context : Option Context) (user : UserSnapshot)
    (previous : Text) : Call TokenPair := do
  let context := service.resolve context
  checkUser user.id
  checkPrevious user.id previous
  let identity ← service.issueIdentity user
  let refresh ← service.issueRefresh user.id
  register context user.id refresh
  if !previous.isEmpty then consumePrevious context user.id previous refresh
  note .debug "Issued token pair" user.id (some refresh.id.text)
  return ⟨identity, refresh⟩

def judge {α : Type} (kind : TokenKind) (verdict : Verdict α) : Call α := do
  match verdict with
  | .trusted value => return value
  | .untrusted =>
      Call.report
        { severity := .info, logger := codecLogger,
          message := "Unable to validate or parse " ++ kind.word ++ " token" }
      Call.fail (.invalidToken kind)
  | .broken fault =>
      Call.report
        { severity := .error, logger, message := "Unexpected token verification failure",
          fault := some fault }
      Call.fail .verificationFailed

/-- Check a token while the call is active; the check depends on the time. -/
def validate {α : Type} (service : TokenService) (context : Option Context) (kind : TokenKind)
    (check : (now : Int) → Verdict α) : Call α := do
  ensureActive (service.resolve context) ("validating " ++ kind.word ++ " token")
  let world ← get
  judge kind (check world.clock.wall)

/-- The user of an identity token.  The store is not asked. -/
def validateIdentity (service : TokenService) (context : Option Context) (token : Text) :
    Call UserSnapshot :=
  service.validate context .identity fun now =>
    .ofVerified .identity (IdentityToken.verify token service.policy.publicKey now)

/-- What a refresh token names.  The token is not consumed. -/
def validateRefresh (service : TokenService) (context : Option Context) (token : Text) :
    Call RefreshClaims :=
  service.validate context .refresh fun now =>
    .ofVerified .refresh (RefreshToken.verify token service.policy.secret now)

def signOut (service : TokenService) (context : Option Context) (user : Text) : Call Nat := do
  checkUser user
  ensureActive (service.resolve context) "revoking refresh tokens"
  let count ← StoreAccess.deleteAll user
  Call.report
    { severity := .info, logger, message := "Signed out user",
      subject := [("user_id", .text user), ("count", .int count)] }
  return count

end TokenService

end TokenAuthority
