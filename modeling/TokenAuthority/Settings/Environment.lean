import TokenAuthority.Number.DecimalReader
import TokenAuthority.Settings.Policy
import TokenAuthority.Text.Blank

/-!
Settings from the environment.

The environment gives texts by name.  A profile, chosen by the environment, is a set of settings
taken from it, with defaults for what it does not tell.
-/

namespace TokenAuthority

abbrev Environment := List (String × Text)

namespace Environment

def find? (environment : Environment) (name : String) : Option Text :=
  (List.find? (fun entry => entry.1 == name) environment).map Prod.snd

def affirmatives : List String := ["1", "true", "yes", "y", "on"]

def flag (environment : Environment) (name : String) (fallback : Bool) : Bool :=
  match environment.find? name with
  | none => fallback
  | some text =>
      text.string?.any fun text => affirmatives.contains (Text.lowerAscii (Text.trim text))

/-- A variable that is an integer; a blank one counts as unset. -/
def integer (environment : Environment) (name : String) (fallback : Int) :
    Except SettingsFailure Int :=
  match environment.find? name with
  | none => .ok fallback
  | some text =>
      if text.string?.any fun text => (Text.trim text).isEmpty then .ok fallback
      else
        match text.string?.bind Numeral.parseMarked? with
        | some value => .ok value
        | none => .error (.config (.notAnInteger name (Text.literal text)))

/-- A variable that is a number; unset, it has the text of a default. -/
def number (environment : Environment) (name fallback : String) : Except SettingsFailure Binary64 :=
  match ((environment.find? name).getD fallback).string?.bind Binary64.parse? with
  | some value => .ok value
  | none => .error .badValue

def setting (environment : Environment) (name : String) : Setting :=
  match environment.find? name with
  | some text => .value (.text text)
  | none => .value .null

def settingOr (environment : Environment) (name fallback : String) : Setting :=
  .value (.text ((environment.find? name).getD fallback))

end Environment

inductive Profile where
  | development
  | testing
  | production
deriving DecidableEq, Repr

namespace Profile

def className : Profile → String
  | .development => "DevelopmentConfig"
  | .testing => "TestingConfig"
  | .production => "ProductionConfig"

/-- The profile that the environment chooses; development when it names none. -/
def choose (environment : Environment) : Profile :=
  let name? := ((environment.find? "APP_ENV").getD "development").string?.map fun text =>
    Text.lowerAscii (Text.trim text)
  if name? = some "testing" then .testing
  else if name? = some "production" then .production
  else .development

def ownSettings (profile : Profile) (environment : Environment) : Settings :=
  let truth := fun value => Setting.value (.bool value)
  match profile with
  | .development =>
      [("DEBUG", truth (environment.flag "FLASK_DEBUG" true)),
       ("REDIS_URL", environment.settingOr "REDIS_URL" "redis://localhost:6379/0"),
       ("TESTING", truth false), ("PROPAGATE_EXCEPTIONS", truth false)]
  | .testing =>
      [("DEBUG", truth false), ("REDIS_URL", environment.setting "TEST_REDIS_URL"),
       ("TESTING", truth true), ("PROPAGATE_EXCEPTIONS", truth true)]
  | .production =>
      [("DEBUG", truth false), ("REDIS_URL", environment.setting "REDIS_URL"),
       ("TESTING", truth false), ("PROPAGATE_EXCEPTIONS", truth false)]

def sharedSettings (environment : Environment) : Except SettingsFailure Settings := do
  let identitySeconds ← environment.integer identityLifetimeName defaultIdentitySeconds
  let refreshSeconds ← environment.integer refreshLifetimeName defaultRefreshSeconds
  let socketTimeout ← environment.number "REDIS_SOCKET_TIMEOUT" "2.0"
  let handlerTimeout ← environment.number "HANDLER_TIMEOUT" "5.0"
  let settings : Settings :=
    [("API_BASE_PREFIX", .value (.text "/api")),
     ("PRIVATE_KEY_FILE", environment.setting "PRIVATE_KEY_FILE"),
     ("PUBLIC_KEY_FILE", environment.setting "PUBLIC_KEY_FILE"),
     ("PRIVATE_KEY", environment.setting "PRIVATE_KEY"),
     ("PUBLIC_KEY", environment.setting "PUBLIC_KEY"),
     ("REFRESH_SECRET", environment.setting "REFRESH_SECRET"),
     (identityLifetimeName, .value (.int identitySeconds)),
     (refreshLifetimeName, .value (.int refreshSeconds)),
     ("REDIS_SOCKET_TIMEOUT", .value (.float socketTimeout)),
     ("HANDLER_TIMEOUT", .value (.float handlerTimeout)),
     ("JSON_SORT_KEYS", .value (.bool false)),
     ("LOG_LEVEL", environment.settingOr "LOG_LEVEL" "INFO")]
  return settings

def settings (profile : Profile) (environment : Environment) : Except SettingsFailure Settings := do
  return (profile.ownSettings environment).layOver (← sharedSettings environment)

end Profile

end TokenAuthority
