import TokenAuthority.Settings.FileTree
import TokenAuthority.Text.Literal

/-!
What can be wrong with settings.

A `ConfigError` names the setting at fault.  Values of a kind or size that no setting has, and keys
of an algorithm that is not known, are told apart from it.
-/

namespace TokenAuthority

inductive KeyRole where
  | signing
  | verifying
deriving DecidableEq, Repr

namespace KeyRole

def word : KeyRole → String
  | .signing => "private"
  | .verifying => "public"

def inlineName : KeyRole → String
  | .signing => "PRIVATE_KEY"
  | .verifying => "PUBLIC_KEY"

def fileName : KeyRole → String
  | .signing => "PRIVATE_KEY_FILE"
  | .verifying => "PUBLIC_KEY_FILE"

end KeyRole

/-- A setting that is missing or cannot be used. -/
inductive ConfigError where
  | keyMissing (role : KeyRole)
  | fileUnreadable (role : KeyRole) (path : Text) (error : FileError)
  | keyUnreadable (role : KeyRole)
  | keyNotRsa (role : KeyRole)
  | secretMissing
  /-- A setting is no integer; it is shown as a literal. -/
  | notAnInteger (name shown : String)
  | notPositive (name : String) (value : Int)
deriving DecidableEq, Repr

def ConfigError.message : ConfigError → String
  | .keyMissing role => role.inlineName ++ " or " ++ role.fileName ++ " must be set"
  | .fileUnreadable role path error =>
      "could not read " ++ role.fileName ++ " " ++ Text.literal path ++ ": " ++ error.message path
  | .keyUnreadable role => "could not parse " ++ role.word ++ " key"
  | .keyNotRsa role => role.word ++ " key is not an RSA key"
  | .secretMissing => "REFRESH_SECRET must be set"
  | .notAnInteger name shown => "could not parse " ++ name ++ " as int: " ++ shown
  | .notPositive name value => name ++ " must be positive, got " ++ toString value

/-- Why settings are refused. -/
inductive SettingsFailure where
  | config (error : ConfigError)
  /-- A setting is of a kind that it cannot be. -/
  | wrongKind
  /-- A setting is of a fitting kind, but no such value is possible. -/
  | badValue
  | outOfRange
  /-- A key is of an algorithm or on a curve that is not known. -/
  | unsupportedKey
  /-- A text is to be encoded and holds surrogates. -/
  | unencodable
  /-- A setting is to be shown and nested deeper than the stack reaches. -/
  | tooDeep
  | outOfMemory
deriving DecidableEq, Repr

end TokenAuthority
