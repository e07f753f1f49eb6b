import TokenAuthority.Json.Integer
import TokenAuthority.Key.Loading
import TokenAuthority.Machine
import TokenAuthority.Octets.Utf8
import TokenAuthority.Service.TokenService
import TokenAuthority.Settings.Basic
import TokenAuthority.Settings.Error

/-!
The token policy that settings describe.

Keys are given inline or by a file, the secret as a text, and lifetimes in seconds.  What is inline
takes precedence, and of several faults the first is told, in the order private key, public key,
secret, identity lifetime, refresh lifetime.
-/

namespace TokenAuthority

def defaultIdentitySeconds : Int := 900

def defaultRefreshSeconds : Int := 259200

def identityLifetimeName : String := "ID_TOKEN_EXPIRATION"

def refreshLifetimeName : String := "REFRESH_TOKEN_EXPIRATION"

namespace Settings

def refuse {α : Type} (error : ConfigError) : Except SettingsFailure α :=
  .error (.config error)

variable (machine : Machine)

/-- The failure to show a value. -/
def ofWriteError : Json.WriteError → SettingsFailure
  | .integerTooLong => .badValue
  | .tooDeep => .tooDeep

/-- Refuse a setting by an error that shows a value; one that has no literal cannot be shown. -/
def refuseShowing {α : Type} (shown : Setting) (error : ConfigError) : Except SettingsFailure α :=
  match shown.literalError? machine.levels with
  | none => refuse error
  | some writeError => .error (ofWriteError writeError)

def octetOfItem : Json → Except SettingsFailure UInt8
  | .int value =>
      if 0 ≤ value ∧ value < 256 then .ok (UInt8.ofNat value.toNat) else .error .badValue
  | .bool value => .ok (if value then 1 else 0)
  | _ => .error .wrongKind

/-- The most octets that can be asked for. -/
def octetCountLimit : Int := 0x7fff_ffff_ffff_ffde

/-- The octets that an inline key consists of.  A count stands for zero octets alone, which are no
key, however many of them fit into memory. -/
def keyOctets : Setting → Except SettingsFailure Octets
  | .raw octets => .ok octets
  | .value (.text text) => (Utf8.encode? text).elim (.error .unencodable) .ok
  | .value (.int count) =>
      if count < -0x8000_0000_0000_0000 ∨ octetCountLimit < count then .error .outOfRange
      else if count < 0 then .error .badValue
      else if machine.octets < count then .error .outOfMemory
      else .ok [0]
  | .value (.bool _) => .ok [0]
  | .value (.array items) => items.mapM octetOfItem
  | .value _ => .error .wrongKind

def keyPath : Setting → Except SettingsFailure Text
  | .value (.text path) =>
      if !path.all FilePath.isPathCode then .error .unencodable
      else if path.contains (.char '\x00') then .error .badValue
      else .ok path
  | _ => .error .wrongKind

def readKey (settings : Settings) (files : FileTree) (role : KeyRole) :
    Except SettingsFailure Octets :=
  match settings.findSet? role.inlineName with
  | some setting => keyOctets machine setting
  | none =>
      match settings.findSet? role.fileName with
      | none => refuse (.keyMissing role)
      | some setting => do
          let path ← keyPath setting
          match files.read path with
          | .ok octets => .ok octets
          | .error error => refuse (.fileUnreadable role path error)

def acceptKey {α : Type} (role : KeyRole) : Except Key.LoadError α → Except SettingsFailure α
  | .ok key => .ok key
  | .error .unreadable | .error .locked => refuse (.keyUnreadable role)
  | .error .unsupported => .error .unsupportedKey
  | .error .notRsa => refuse (.keyNotRsa role)

/-- The secret of refresh tokens; whatever is set stands for its text. -/
def secret (settings : Settings) : Except SettingsFailure Text :=
  match settings.findSet? "REFRESH_SECRET" with
  | some setting =>
      match setting.textError? machine.levels with
      | none => .ok setting.plainText
      | some error => .error (ofWriteError error)
  | none => refuse .secretMissing

def integerOfOctets? (octets : Octets) : Option Int :=
  if octets.all (· < 0x80) then
    Numeral.parse? 10 (String.ofList (octets.map fun octet => Char.ofNat octet.toNat))
  else none

def toInteger : Setting → Except ConversionFault Int
  | .raw octets => (integerOfOctets? octets).elim (.error .badValue) .ok
  | .value json => json.toInteger

/-- The integer that a setting stands for; a number that is too large is not taken for a fault of
the setting. -/
def integer (name : String) (setting : Setting) : Except SettingsFailure Int :=
  match toInteger setting with
  | .ok value => .ok value
  | .error .outOfRange => .error .outOfRange
  | .error .wrongKind => refuseShowing machine setting (.notAnInteger name setting.literal)
  | .error .badValue => refuseShowing machine setting (.notAnInteger name setting.literal)

/-- A lifetime, in microseconds: a positive number of seconds that is a duration. -/
def lifetime (settings : Settings) (name : String) (fallback : Int) :
    Except SettingsFailure Int := do
  let seconds ← integer machine name ((settings.find? name).getD (.value (.int fallback)))
  if seconds ≤ 0 then refuseShowing machine (.value (.int seconds)) (.notPositive name seconds)
  else if Duration.isInRange (seconds * microsecondsPerSecond) then
    return seconds * microsecondsPerSecond
  else .error .outOfRange

end Settings

namespace TokenPolicy

def ofSettings (machine : Machine) (settings : Settings) (files : FileTree) :
    Except SettingsFailure TokenPolicy := do
  let privateKey ←
    Settings.acceptKey .signing
      (Key.loadPrivate (← Settings.readKey machine settings files .signing))
  let publicKey ←
    Settings.acceptKey .verifying
      (Key.loadPublic (← Settings.readKey machine settings files .verifying))
  let secret ← Settings.secret machine settings
  let identityLifetime ←
    Settings.lifetime machine settings identityLifetimeName defaultIdentitySeconds
  let refreshLifetime ←
    Settings.lifetime machine settings refreshLifetimeName defaultRefreshSeconds
  return { privateKey, publicKey, secret, identityLifetime, refreshLifetime }

/-- A lifetime of whole seconds in days and seconds, of which only those that are not zero are
named. -/
def lifetimeText (microseconds : Int) : String :=
  let seconds := microseconds / microsecondsPerSecond
  let days := seconds / 86400
  let rest := seconds % 86400
  let parts :=
    (if days = 0 then [] else ["days=" ++ toString days]) ++
      (if rest = 0 then [] else ["seconds=" ++ toString rest])
  "datetime.timedelta(" ++ (if parts.isEmpty then "0" else ", ".intercalate parts) ++ ")"

/-- The policy as it may be shown: neither the keys nor the secret appear. -/
def shown (policy : TokenPolicy) : String :=
  "TokenServiceConfig(id_expires=" ++ lifetimeText policy.identityLifetime ++
    ", refresh_expires=" ++ lifetimeText policy.refreshLifetime ++ ", refresh_secret='***')"

end TokenPolicy

end TokenAuthority
