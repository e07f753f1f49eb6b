import TokenAuthority.Http.Route
import TokenAuthority.Log.Level
import TokenAuthority.Settings.Policy
import TokenAuthority.User.Directory

/-!
The application.

An application is put together from settings: the level of logging, the token service, the store and
the mount of its routes.  A part may be missing, which shows when it is asked for.
-/

namespace TokenAuthority.Http

structure App where
  mount : Text
  level : Int
  service : TokenService
  directory : Option UserDirectory
  hasKeyServer : Bool
  settings : Settings
  machine : Machine

inductive StoreChoice where
  | givenMemory
  | givenKeyServer
  /-- The key server that settings tell; it answers or it does not. -/
  | fromSettings (answers : Bool)
deriving DecidableEq, Repr

/-- A connection to a key server: its address, and the time limit of commands. -/
structure Connection where
  address : Setting
  timeout : Setting

inductive SetupFailure where
  | settings (failure : SettingsFailure)
  | keyServerUnset
  /-- The key server does not answer; its address is shown as a literal. -/
  | keyServerSilent (shown : String)
  | mountNotText
deriving DecidableEq, Repr

def SetupFailure.message? : SetupFailure → Option String
  | .settings (.config error) => some error.message
  | .settings _ => none
  | .keyServerUnset => some "REDIS_URL is not configured."
  | .keyServerSilent shown => some ("Failed to connect to Redis at " ++ shown)
  | .mountNotText => none

inductive Part where
  | keyServer
  | tokenService
  | userDirectory
deriving DecidableEq, Repr

def Part.missingMessage : Part → String
  | .keyServer => "Redis client is not initialized. Call init_app() first."
  | .tokenService => "Token service is not initialized. Call init_app() first."
  | .userDirectory => "User directory is not configured."

namespace App

def has (app : App) : Part → Bool
  | .keyServer => app.hasKeyServer
  | .tokenService => true
  | .userDirectory => app.directory.isSome

def levelOfSettings (settings : Settings) : Except SetupFailure Int :=
  match settings.find? "LOG_LEVEL" with
  | none => .ok Log.Severity.info.number
  | some (.value value) =>
      match Log.levelOf? value with
      | some level => .ok level
      | none => .error (.settings .wrongKind)
  | some (.raw _) => .error (.settings .wrongKind)

def connect (settings : Settings) : StoreChoice → Except SetupFailure (Option Connection)
  | .givenMemory => .ok none
  | .givenKeyServer => .ok none
  | .fromSettings answers =>
      match settings.findSet? "REDIS_URL" with
      | none => .error .keyServerUnset
      | some address =>
          if answers then
            .ok (some ⟨address, (settings.find? "REDIS_SOCKET_TIMEOUT").getD (.value .null)⟩)
          else .error (.keyServerSilent address.literal)

def mountOfSettings (settings : Settings) : Except SetupFailure Text :=
  match (settings.find? "API_BASE_PREFIX").getD (.value (.text "/api")) with
  | .value (.text base) =>
      let mount := mountOf base
      if mount.head? = some slash then .ok mount else .error (.settings .badValue)
  | _ => .error .mountNotText

/-- Put an application together, and tell the connection that it makes. -/
def create (machine : Machine) (settings : Settings) (files : FileTree) (choice : StoreChoice)
    (directory : Option UserDirectory) : Except SetupFailure (App × Option Connection) := do
  let level ← levelOfSettings settings
  let policy ←
    match TokenPolicy.ofSettings machine settings files with
    | .ok policy => Except.ok policy
    | .error failure => Except.error (SetupFailure.settings failure)
  let connection ← connect settings choice
  let mount ← mountOfSettings settings
  return ({ mount, level, service := { policy }, directory,
            hasKeyServer := choice != .givenMemory, settings, machine }, connection)

end App

end TokenAuthority.Http
