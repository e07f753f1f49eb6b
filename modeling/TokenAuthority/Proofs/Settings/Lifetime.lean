import TokenAuthority.Proofs.Settings.Failure

/-!
Lifetimes in settings.

A lifetime that is taken is a positive duration.  A setting that is no lifetime is told as a fault
of the settings, with three exceptions, which break the reading off by a failure of another kind:
it is infinite, it is longer than any duration, or it cannot be shown in the message that would tell
the fault, since it holds an integer with too many digits or is nested too deep.
-/

namespace TokenAuthority.Settings

variable {machine : Machine}

/-- How a setting breaks off that it is read as a lifetime. -/
inductive UnfitLifetime (machine : Machine) (setting : Setting) : SettingsFailure → Prop
  | infinite (tooLarge : toInteger setting = .error .outOfRange) :
      UnfitLifetime machine setting .outOfRange
  | tooLong {seconds : Int} (isInteger : toInteger setting = .ok seconds)
      (beyond : Duration.greatest < seconds * microsecondsPerSecond) :
      UnfitLifetime machine setting .outOfRange
  /-- No message can show the integer, which is not positive. -/
  | unshown {seconds : Int} {error : Json.WriteError} (isInteger : toInteger setting = .ok seconds)
      (notPositive : seconds ≤ 0)
      (unwritten : (Json.int seconds).literalError? machine.levels = some error) :
      UnfitLifetime machine setting (ofWriteError error)
  /-- No message can show the setting, which is no integer. -/
  | unshownSetting {fault : ConversionFault} {error : Json.WriteError}
      (noInteger : toInteger setting = .error fault) (convertible : fault ≠ .outOfRange)
      (unwritten : setting.literalError? machine.levels = some error) :
      UnfitLifetime machine setting (ofWriteError error)

/-- The setting that tells a lifetime, or what it is when nothing is set. -/
def lifetimeSetting (settings : Settings) (name : String) (fallback : Int) : Setting :=
  (settings.find? name).getD (.value (.int fallback))

theorem integer_eq_ok_iff {name : String} {setting : Setting} {value : Int} :
    integer machine name setting = .ok value ↔ toInteger setting = .ok value := by
  unfold integer
  cases toInteger setting with
  | ok other => simp
  | error fault =>
      cases fault with
      | outOfRange => simp
      | wrongKind => simpa using refuseShowing_ne_ok
      | badValue => simpa using refuseShowing_ne_ok

theorem escapes_integer_iff {name : String} {setting : Setting} {failure : SettingsFailure} :
    Escapes (integer machine name setting) failure ↔
      (toInteger setting = .error .outOfRange ∧ failure = .outOfRange) ∨
        ∃ fault error, toInteger setting = .error fault ∧ fault ≠ .outOfRange ∧
          setting.literalError? machine.levels = some error ∧ failure = ofWriteError error := by
  unfold integer
  cases toInteger setting with
  | ok value => simpa using not_escapes_ok value
  | error fault =>
      cases fault with
      | outOfRange => simpa using escapes_error_iff .outOfRange nofun
      | wrongKind => simpa using escapes_refuseShowing_iff
      | badValue => simpa using escapes_refuseShowing_iff

theorem not_isInRange_iff {seconds : Int} (positive : 0 < seconds) :
    Duration.isInRange (seconds * microsecondsPerSecond) = false ↔
      Duration.greatest < seconds * microsecondsPerSecond := by
  unfold Duration.isInRange Duration.least Duration.greatest microsecondsPerSecond
  rw [Bool.and_eq_false_iff, decide_eq_false_iff_not, decide_eq_false_iff_not]
  omega

theorem escapes_lifetime_iff {settings : Settings} {name : String} {fallback : Int}
    {failure : SettingsFailure} :
    Escapes (settings.lifetime machine name fallback) failure ↔
      UnfitLifetime machine (settings.lifetimeSetting name fallback) failure := by
  unfold Settings.lifetime
  rw [escapes_bind_iff, escapes_integer_iff]
  constructor
  · rintro ((⟨infinite, rfl⟩ | ⟨fault, error, noInteger, convertible, unwritten, rfl⟩) |
      ⟨seconds, isInteger, escapes⟩)
    · exact .infinite infinite
    · exact .unshownSetting noInteger convertible unwritten
    · rw [integer_eq_ok_iff] at isInteger
      split at escapes
      · next notPositive =>
          obtain ⟨error, unwritten, rfl⟩ := escapes_refuseShowing_iff.mp escapes
          exact .unshown isInteger notPositive unwritten
      · next positive =>
          split at escapes
          · exact absurd escapes (not_escapes_ok _)
          · next outside =>
              obtain rfl := (escapes_error_iff .outOfRange nofun).mp escapes
              exact .tooLong isInteger
                ((not_isInRange_iff (Int.not_le.mp positive)).mp (Bool.eq_false_iff.mpr outside))
  · intro unfit
    cases unfit with
    | infinite infinite => exact .inl (.inl ⟨infinite, rfl⟩)
    | unshownSetting noInteger convertible unwritten =>
        exact .inl (.inr ⟨_, _, noInteger, convertible, unwritten, rfl⟩)
    | @unshown seconds error isInteger notPositive unwritten =>
        refine .inr ⟨seconds, integer_eq_ok_iff.mpr isInteger, ?_⟩
        rw [if_pos notPositive]
        exact escapes_refuseShowing_iff.mpr ⟨error, unwritten, rfl⟩
    | @tooLong seconds isInteger beyond =>
        have positive : 0 < seconds := by
          unfold Duration.greatest microsecondsPerSecond at beyond
          omega
        refine .inr ⟨seconds, integer_eq_ok_iff.mpr isInteger, ?_⟩
        rw [if_neg (Int.not_le.mpr positive), (not_isInRange_iff positive).mpr beyond]
        exact (escapes_error_iff .outOfRange nofun).mpr rfl

/-- A lifetime that is taken is a positive duration. -/
theorem lifetime_pos {settings : Settings} {name : String} {fallback lifetime : Int}
    (accepted : settings.lifetime machine name fallback = .ok lifetime) : 0 < lifetime := by
  unfold Settings.lifetime at accepted
  obtain ⟨seconds, -, checked⟩ := exists_of_bind_eq_ok accepted
  split at checked
  · exact absurd checked refuseShowing_ne_ok
  · next positive =>
      split at checked
      · rw [← Except.ok.inj checked]
        unfold microsecondsPerSecond
        omega
      · cases checked

end TokenAuthority.Settings
