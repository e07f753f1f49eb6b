import TokenAuthority.Proofs.Service.Call
import TokenAuthority.Settings.Policy

/-!
Failures that settings are not blamed for.

Reading settings is a chain of steps.  A step that fails tells a fault of the settings, or else it
breaks the reading off by a failure that is not told as one: that failure escapes.  A chain lets a
failure escape where its first step does, or where a later step does after the earlier ones have
gone well.
-/

namespace TokenAuthority

/-- Whether a failure is told as a fault of the settings. -/
def SettingsFailure.IsConfig (failure : SettingsFailure) : Prop :=
  ∃ error, failure = .config error

theorem SettingsFailure.not_isConfig {failure : SettingsFailure}
    (isOther : ∀ error, failure ≠ .config error) : ¬failure.IsConfig :=
  fun ⟨error, isConfig⟩ => isOther error isConfig

namespace Settings

/-- Whether a step ends in a failure that is not told as a fault of the settings. -/
def Escapes {α : Type} (step : Except SettingsFailure α) (failure : SettingsFailure) : Prop :=
  step = .error failure ∧ ¬failure.IsConfig

section Steps

variable {α β : Type} {failure : SettingsFailure}

theorem not_escapes_ok (value : α) : ¬Escapes (.ok value) failure := by
  rintro ⟨failed, -⟩
  cases failed

theorem not_escapes_refuse (error : ConfigError) :
    ¬Escapes (refuse error : Except SettingsFailure α) failure := by
  rintro ⟨failed, untold⟩
  exact untold ⟨error, (Except.error.inj failed).symm⟩

theorem escapes_error_iff (other : SettingsFailure) (isOther : ∀ error, other ≠ .config error) :
    Escapes (.error other : Except SettingsFailure α) failure ↔ failure = other := by
  constructor
  · rintro ⟨failed, -⟩
    exact (Except.error.inj failed).symm
  · rintro rfl
    exact ⟨rfl, SettingsFailure.not_isConfig isOther⟩

/-- Steps in turn end untold where the first of them does, or else where the next one does. -/
theorem escapes_bind_iff {first : Except SettingsFailure α}
    {next : α → Except SettingsFailure β} :
    Escapes (first >>= next) failure ↔
      Escapes first failure ∨ ∃ value, first = .ok value ∧ Escapes (next value) failure := by
  unfold Escapes
  rw [bind_eq_error_iff]
  constructor
  · rintro ⟨failed | ⟨value, computed, failed⟩, untold⟩
    · exact .inl ⟨failed, untold⟩
    · exact .inr ⟨value, computed, failed, untold⟩
  · rintro (⟨failed, untold⟩ | ⟨value, computed, failed, untold⟩)
    · exact ⟨.inl failed, untold⟩
    · exact ⟨.inr ⟨value, computed, failed⟩, untold⟩

/-- The failure to show a value is not told as a fault of the settings. -/
theorem ofWriteError_ne_config (writeError : Json.WriteError) (error : ConfigError) :
    ofWriteError writeError ≠ .config error := by
  cases writeError <;> nofun

/-- A message that cannot be written is a failure of its own. -/
theorem escapes_refuseShowing_iff {machine : Machine} {shown : Setting} {error : ConfigError} :
    Escapes (refuseShowing machine shown error : Except SettingsFailure α) failure ↔
      ∃ writeError, shown.literalError? machine.levels = some writeError ∧
        failure = ofWriteError writeError := by
  unfold refuseShowing
  cases shown.literalError? machine.levels with
  | none => simpa using not_escapes_refuse error
  | some writeError => simpa using escapes_error_iff _ (ofWriteError_ne_config writeError)

theorem refuseShowing_ne_ok {machine : Machine} {shown : Setting} {error : ConfigError}
    {value : α} : refuseShowing machine shown error ≠ .ok value := by
  unfold refuseShowing
  cases shown.literalError? machine.levels <;> intro computed <;> cases computed

end Steps

/-- A setting that is found set does not count as unset. -/
theorem isUnset_of_findSet? {settings : Settings} {name : String} {setting : Setting}
    (given : settings.findSet? name = some setting) : setting.isUnset = false := by
  unfold findSet? at given
  simpa using (Option.filter_eq_some_iff.mp given).2

end Settings

end TokenAuthority
