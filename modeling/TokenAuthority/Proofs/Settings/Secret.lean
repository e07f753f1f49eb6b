import TokenAuthority.Proofs.Json.Integer
import TokenAuthority.Proofs.Settings.Failure

/-!
The secret in settings.

Whatever is set stands for its text.  A setting that counts as set has a text that is not empty, so
that a secret that is taken is never the empty one.
-/

namespace TokenAuthority

/-! ### Texts of values -/

namespace Binary64

/-- A decimal shows a point or an exponent at least. -/
theorem Decimal.characters_ne_nil (decimal : Decimal) : decimal.characters ≠ [] := by
  unfold Decimal.characters
  dsimp only
  split
  · split
    · exact List.cons_ne_nil _ _
    · split <;> simp
  · simp

theorem text_ne_empty (number : Binary64) : number.text ≠ "" := by
  cases number with
  | finite negative units =>
      apply mt String.toList_eq_nil_iff.mpr
      unfold text textWith
      rw [String.toList_ofList, List.append_eq_nil_iff]
      exact fun isEmpty => Decimal.characters_ne_nil _ isEmpty.2
  | infinite negative => cases negative <;> decide
  | notANumber negative => exact (by decide : "nan" ≠ "")

end Binary64

theorem Text.octetsLiteral_ne_empty (octets : Octets) : Text.octetsLiteral octets ≠ "" := by
  apply mt String.toList_eq_nil_iff.mpr
  unfold Text.octetsLiteral
  rw [String.toList_ofList]
  exact List.cons_ne_nil _ _

theorem Json.literal_ne_empty {value : Json} (noText : ∀ text, value ≠ .text text) :
    value.literal ≠ "" := by
  cases value with
  | null => decide
  | bool truth => cases truth <;> decide
  | int number =>
      apply mt String.toList_eq_nil_iff.mpr
      unfold literal
      rw [String.toList_ofList]
      obtain ⟨first, others, isCons, -⟩ := writeInt_begins number
      rw [isCons]
      exact List.cons_ne_nil _ _
  | float number => exact number.text_ne_empty
  | text characters => exact absurd rfl (noText characters)
  | array items => simp [literal]
  | object members => simp [literal]

/-- What counts as set has a text. -/
theorem Setting.plainText_ne_nil {setting : Setting} (isSet : setting.isUnset = false) :
    setting.plainText ≠ [] := by
  cases setting with
  | raw octets => exact mt Text.ofString_eq_nil_iff.mp (Text.octetsLiteral_ne_empty octets)
  | value json =>
      cases json with
      | text characters =>
          rintro rfl
          cases isSet
      | _ => exact mt Text.ofString_eq_nil_iff.mp (Json.literal_ne_empty nofun)

/-! ### The secret -/

namespace Settings

variable {machine : Machine} {settings : Settings}

/-- A secret that is taken is not empty. -/
theorem secret_ne_nil {secret : Text} (accepted : settings.secret machine = .ok secret) :
    secret ≠ [] := by
  unfold Settings.secret at accepted
  split at accepted
  · next setting given =>
      split at accepted
      · obtain rfl := Except.ok.inj accepted
        exact Setting.plainText_ne_nil (isUnset_of_findSet? given)
      · cases accepted
  · cases accepted

/-- The secret breaks the reading off if it has to be shown as a text and cannot be: it holds an
integer with too many digits or is nested too deep. -/
theorem escapes_secret_iff {failure : SettingsFailure} :
    Escapes (settings.secret machine) failure ↔
      ∃ setting error, settings.findSet? "REFRESH_SECRET" = some setting ∧
        setting.textError? machine.levels = some error ∧ failure = ofWriteError error := by
  unfold Settings.secret
  cases given : settings.findSet? "REFRESH_SECRET" with
  | none => simpa using not_escapes_refuse _
  | some setting =>
      cases unwritten : setting.textError? machine.levels with
      | none => simpa [unwritten] using not_escapes_ok _
      | some error =>
          simpa [unwritten] using escapes_error_iff _ (ofWriteError_ne_config error)

end Settings

end TokenAuthority
