import TokenAuthority.Proofs.Settings.Policy
import TokenAuthority.Settings.Environment

/-!
Settings that come from the environment.

A profile lays settings of its own over the ones that all profiles share.  None of its own is a
setting that a policy is read from, so the profile makes no difference to the policy.  Whatever the
environment holds, a secret is a text and the lifetimes are integers, so that neither of them is
ever of a wrong kind.
-/

namespace TokenAuthority

variable {environment : Environment} {profile : Profile} {settings : Settings}

/-! ### Variables -/

namespace Environment

variable {name : String} {failure : SettingsFailure}

/-- A variable that is no integer is told as a fault of the settings. -/
theorem isConfig_of_integer {fallback : Int}
    (failed : environment.integer name fallback = .error failure) : failure.IsConfig := by
  unfold integer at failed
  split at failed
  · cases failed
  · split at failed
    · cases failed
    · split at failed
      · cases failed
      · exact ⟨_, (Except.error.inj failed).symm⟩

/-- One that is no number is not. -/
theorem eq_badValue_of_number {fallback : String}
    (failed : environment.number name fallback = .error failure) : failure = .badValue := by
  unfold number at failed
  split at failed
  · cases failed
  · exact (Except.error.inj failed).symm

end Environment

/-! ### Profiles -/

namespace Settings

theorem find?_layOver (upper lower : Settings) (name : String) :
    (layOver upper lower).find? name = (upper.find? name).or (lower.find? name) := by
  unfold find? layOver
  rw [List.find?_append, Option.map_or]

/-- The settings that a policy is read from. -/
def policyNames : List String :=
  ["PRIVATE_KEY", "PRIVATE_KEY_FILE", "PUBLIC_KEY", "PUBLIC_KEY_FILE", "REFRESH_SECRET",
    identityLifetimeName, refreshLifetimeName]

theorem inlineName_mem_policyNames (role : KeyRole) : role.inlineName ∈ policyNames := by
  cases role <;> decide

theorem fileName_mem_policyNames (role : KeyRole) : role.fileName ∈ policyNames := by
  cases role <;> decide

section Congruence

variable {first second : Settings}
  (same : ∀ name ∈ policyNames, first.find? name = second.find? name)

include same

theorem findSet?_congr {name : String} (isRead : name ∈ policyNames) :
    first.findSet? name = second.findSet? name := by
  unfold findSet?
  rw [same name isRead]

theorem readKey_congr (machine : Machine) (files : FileTree) (role : KeyRole) :
    first.readKey machine files role = second.readKey machine files role := by
  unfold readKey
  rw [findSet?_congr same (inlineName_mem_policyNames role),
    findSet?_congr same (fileName_mem_policyNames role)]

theorem secret_congr (machine : Machine) : first.secret machine = second.secret machine := by
  unfold secret
  rw [findSet?_congr same (by decide)]

theorem lifetime_congr (machine : Machine) {name : String} (isRead : name ∈ policyNames)
    (fallback : Int) :
    first.lifetime machine name fallback = second.lifetime machine name fallback := by
  unfold lifetime
  rw [same name isRead]

/-- Settings that agree on these names give the same policy. -/
theorem ofSettings_congr (machine : Machine) (files : FileTree) :
    TokenPolicy.ofSettings machine first files = TokenPolicy.ofSettings machine second files := by
  unfold TokenPolicy.ofSettings
  simp only [readKey_congr same, secret_congr same,
    lifetime_congr same machine (show identityLifetimeName ∈ policyNames by decide),
    lifetime_congr same machine (show refreshLifetimeName ∈ policyNames by decide)]

end Congruence

end Settings

namespace Profile

open Settings

theorem settings_eq_ok_iff :
    profile.settings environment = .ok settings ↔
      ∃ shared, sharedSettings environment = .ok shared ∧
        settings = (profile.ownSettings environment).layOver shared := by
  unfold Profile.settings
  cases sharedSettings environment with
  | ok shared => simp [eq_comm]
  | error failure => simp

/-- No profile has a setting of its own that a policy is read from. -/
theorem find?_ownSettings (profile : Profile) (environment : Environment) :
    ∀ name ∈ policyNames, (profile.ownSettings environment).find? name = none := by
  cases profile <;> simp [policyNames, ownSettings, Settings.find?, identityLifetimeName,
    refreshLifetimeName]

theorem find?_settings {shared : Settings} {name : String} (isRead : name ∈ policyNames) :
    ((profile.ownSettings environment).layOver shared).find? name = shared.find? name := by
  rw [find?_layOver, find?_ownSettings profile environment name isRead, Option.none_or]

/-- The profile makes no difference to the policy that is read from its settings, nor to whether
there are any. -/
theorem exists_settings_of_settings (other : Profile)
    (isRead : profile.settings environment = .ok settings) :
    ∃ others, other.settings environment = .ok others ∧
      ∀ machine files, TokenPolicy.ofSettings machine others files =
        TokenPolicy.ofSettings machine settings files := by
  obtain ⟨shared, isShared, rfl⟩ := settings_eq_ok_iff.mp isRead
  refine ⟨_, settings_eq_ok_iff.mpr ⟨shared, isShared, rfl⟩, fun machine files => ?_⟩
  apply ofSettings_congr
  intro name isPolicy
  rw [find?_settings isPolicy, find?_settings isPolicy]

/-- Settings are missing for an integer, which is told, or for a number, which is not. -/
theorem failure_of_settings {failure : SettingsFailure}
    (failed : profile.settings environment = .error failure) :
    failure.IsConfig ∨ failure = .badValue := by
  rcases of_bind_eq_error failed with failedShared | ⟨shared, -, failedLater⟩
  · unfold sharedSettings at failedShared
    rcases of_bind_eq_error failedShared with failed | ⟨identitySeconds, -, failed⟩
    · exact .inl (Environment.isConfig_of_integer failed)
    rcases of_bind_eq_error failed with failed | ⟨refreshSeconds, -, failed⟩
    · exact .inl (Environment.isConfig_of_integer failed)
    rcases of_bind_eq_error failed with failed | ⟨socketTimeout, -, failed⟩
    · exact .inr (Environment.eq_badValue_of_number failed)
    rcases of_bind_eq_error failed with failed | ⟨handlerTimeout, -, failed⟩
    · exact .inr (Environment.eq_badValue_of_number failed)
    cases failed
  · cases failedLater

/-- What settings say about a policy, and where the environment says it. -/
structure Tell (environment : Environment) (settings : Settings)
    (identitySeconds refreshSeconds : Int) : Prop where
  identityRead :
    environment.integer identityLifetimeName defaultIdentitySeconds = .ok identitySeconds
  refreshRead : environment.integer refreshLifetimeName defaultRefreshSeconds = .ok refreshSeconds
  identity : settings.find? identityLifetimeName = some (.value (.int identitySeconds))
  refresh : settings.find? refreshLifetimeName = some (.value (.int refreshSeconds))
  secret : settings.find? "REFRESH_SECRET" = some (environment.setting "REFRESH_SECRET")

theorem exists_tell_of_sharedSettings {shared : Settings}
    (isShared : sharedSettings environment = .ok shared) :
    ∃ identitySeconds refreshSeconds, Tell environment shared identitySeconds refreshSeconds := by
  unfold sharedSettings at isShared
  obtain ⟨identitySeconds, identityRead, isShared⟩ := exists_of_bind_eq_ok isShared
  obtain ⟨refreshSeconds, refreshRead, isShared⟩ := exists_of_bind_eq_ok isShared
  obtain ⟨socketTimeout, -, isShared⟩ := exists_of_bind_eq_ok isShared
  obtain ⟨handlerTimeout, -, isShared⟩ := exists_of_bind_eq_ok isShared
  obtain rfl := Except.ok.inj isShared
  exact ⟨identitySeconds, refreshSeconds, identityRead, refreshRead, rfl, rfl, rfl⟩

/-- Whatever the profile, the lifetimes of its settings are integers, and the secret is a text or
not set. -/
theorem exists_tell_of_settings (isRead : profile.settings environment = .ok settings) :
    ∃ identitySeconds refreshSeconds,
      Tell environment settings identitySeconds refreshSeconds := by
  obtain ⟨shared, isShared, rfl⟩ := settings_eq_ok_iff.mp isRead
  obtain ⟨identitySeconds, refreshSeconds, tell⟩ := exists_tell_of_sharedSettings isShared
  refine ⟨identitySeconds, refreshSeconds, tell.identityRead, tell.refreshRead, ?_, ?_, ?_⟩
  · rw [find?_settings (by decide), tell.identity]
  · rw [find?_settings (by decide), tell.refresh]
  · rw [find?_settings (by decide), tell.secret]

/-- How an integer breaks off that it is read as a lifetime: it is longer than any duration, or it
is not positive and no message can show it. -/
def IntegerBreaks (machine : Machine) (seconds : Int) (failure : SettingsFailure) : Prop :=
  (Duration.greatest < seconds * microsecondsPerSecond ∧ failure = .outOfRange) ∨
    (seconds ≤ 0 ∧ ∃ error, (Json.int seconds).literalError? machine.levels = some error ∧
      failure = ofWriteError error)

theorem unfitLifetime_int_iff {machine : Machine} {seconds : Int} {failure : SettingsFailure} :
    UnfitLifetime machine (.value (.int seconds)) failure ↔
      IntegerBreaks machine seconds failure := by
  constructor
  · intro unfit
    cases unfit with
    | infinite tooLarge => cases tooLarge
    | tooLong isInteger beyond =>
        obtain rfl := Except.ok.inj isInteger
        exact .inl ⟨beyond, rfl⟩
    | unshown isInteger notPositive unwritten =>
        obtain rfl := Except.ok.inj isInteger
        exact .inr ⟨notPositive, _, unwritten, rfl⟩
    | unshownSetting noInteger => cases noInteger
  · rintro (⟨beyond, rfl⟩ | ⟨notPositive, error, unwritten, rfl⟩)
    · exact .tooLong rfl beyond
    · exact .unshown rfl notPositive unwritten

section Told

variable {identitySeconds refreshSeconds : Int} {machine : Machine} {failure : SettingsFailure}
  (tell : Tell environment settings identitySeconds refreshSeconds)

include tell

/-- The secret is what the environment says; an empty one counts as missing. -/
theorem Tell.secret_eq :
    settings.secret machine =
      match environment.find? "REFRESH_SECRET" with
      | none | some [] => refuse .secretMissing
      | some text => .ok text := by
  unfold Settings.secret findSet?
  rw [tell.secret]
  unfold Environment.setting
  cases environment.find? "REFRESH_SECRET" with
  | none => rfl
  | some text =>
      cases text with
      | nil => rfl
      | cons code rest => rfl

/-- A secret never breaks the reading of a policy off. -/
theorem Tell.not_escapes_secret : ¬Escapes (settings.secret machine) failure := by
  rw [tell.secret_eq]
  split
  · exact not_escapes_refuse _
  · exact not_escapes_refuse _
  · exact not_escapes_ok _

omit tell in
theorem lifetimeSetting_eq {name : String} {fallback : Int} {setting : Setting}
    (found : settings.find? name = some setting) :
    settings.lifetimeSetting name fallback = setting := by
  unfold lifetimeSetting
  rw [found, Option.getD_some]

/-- What breaks the reading of a policy off is one of its keys, or an integer that is no
lifetime. -/
theorem Tell.of_escapes {files : FileTree}
    (escapes : Escapes (TokenPolicy.ofSettings machine settings files) failure) :
    UnfitKey machine settings files .signing Key.UnsupportedPrivate failure ∨
      UnfitKey machine settings files .verifying Key.UnsupportedPublic failure ∨
        IntegerBreaks machine identitySeconds failure ∨
          IntegerBreaks machine refreshSeconds failure := by
  cases TokenPolicy.escapes_ofSettings_iff.mp escapes with
  | signingKey unfit => exact .inl unfit
  | verifyingKey _ unfit => exact .inr (.inl unfit)
  | secret signing verifying given unwritten =>
      have unsecret := escapes_secret_iff.mpr ⟨_, _, given, unwritten, rfl⟩
      exact absurd unsecret tell.not_escapes_secret
  | identityLifetime _ _ _ unfit =>
      rw [lifetimeSetting_eq tell.identity, unfitLifetime_int_iff] at unfit
      exact .inr (.inr (.inl unfit))
  | refreshLifetime _ _ _ _ unfit =>
      rw [lifetimeSetting_eq tell.refresh, unfitLifetime_int_iff] at unfit
      exact .inr (.inr (.inr unfit))

end Told

end Profile

end TokenAuthority
