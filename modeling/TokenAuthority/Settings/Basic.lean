import TokenAuthority.Json.Literal
import TokenAuthority.Octets.Basic

/-!
Settings.

A setting is a value or raw octets.  Settings are looked up by name; one that is null, false, zero
or empty counts as unset where a setting is optional.
-/

namespace TokenAuthority

inductive Setting where
  | value (json : Json)
  | raw (octets : Octets)

abbrev Settings := List (String × Setting)

namespace Setting

def isUnset : Setting → Bool
  | .value json => json.isUnset
  | .raw octets => octets.isEmpty

def literal : Setting → String
  | .value json => json.literal
  | .raw octets => Text.octetsLiteral octets

/-- What keeps a setting from being shown. -/
def literalError? (levels : Nat) : Setting → Option Json.WriteError
  | .value json => json.literalError? levels
  | .raw _ => none

/-- What keeps a setting from being taken for a text; a text is one itself. -/
def textError? (levels : Nat) : Setting → Option Json.WriteError
  | .value (.text _) => none
  | setting => setting.literalError? levels

def plainText : Setting → Text
  | .value json => json.plainText
  | .raw octets => Text.octetsLiteral octets

def text? : Setting → Option Text
  | .value json => json.text?
  | .raw _ => none

end Setting

namespace Settings

def find? (settings : Settings) (name : String) : Option Setting :=
  (List.find? (fun entry => entry.1 == name) settings).map Prod.snd

def findSet? (settings : Settings) (name : String) : Option Setting :=
  (settings.find? name).filter fun setting => !setting.isUnset

/-- Settings that take precedence over others. -/
def layOver (upper lower : Settings) : Settings :=
  upper ++ lower

end Settings

end TokenAuthority
