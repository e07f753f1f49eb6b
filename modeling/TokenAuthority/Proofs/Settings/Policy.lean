import TokenAuthority.Proofs.Service.Classification

/-!
What becomes of settings.

Settings give a sound policy, or a fault of theirs is told, or something breaks the reading off.
The parts of a policy are read in turn, so that only the first part at fault counts.
-/

namespace TokenAuthority

namespace Settings

/-- How reading settings is broken off by a failure that is not told as a fault of theirs.  Every
part that is read before has gone well. -/
inductive Breaks (machine : Machine) (settings : Settings) (files : FileTree) :
    SettingsFailure → Prop
  | signingKey {failure : SettingsFailure}
      (unfit : UnfitKey machine settings files .signing Key.UnsupportedPrivate failure) :
      Breaks machine settings files failure
  | verifyingKey {failure : SettingsFailure} {privateKey : Rsa.PrivateKey}
      (signing : settings.key machine files .signing Key.loadPrivate = .ok privateKey)
      (unfit : UnfitKey machine settings files .verifying Key.UnsupportedPublic failure) :
      Breaks machine settings files failure
  | secret {setting : Setting} {error : Json.WriteError} {privateKey : Rsa.PrivateKey}
      {publicKey : Rsa.PublicKey}
      (signing : settings.key machine files .signing Key.loadPrivate = .ok privateKey)
      (verifying : settings.key machine files .verifying Key.loadPublic = .ok publicKey)
      (given : settings.findSet? "REFRESH_SECRET" = some setting)
      (unwritten : setting.textError? machine.levels = some error) :
      Breaks machine settings files (ofWriteError error)
  | identityLifetime {failure : SettingsFailure} {privateKey : Rsa.PrivateKey}
      {publicKey : Rsa.PublicKey} {secret : Text}
      (signing : settings.key machine files .signing Key.loadPrivate = .ok privateKey)
      (verifying : settings.key machine files .verifying Key.loadPublic = .ok publicKey)
      (secretGiven : settings.secret machine = .ok secret)
      (unfit : UnfitLifetime machine
        (settings.lifetimeSetting identityLifetimeName defaultIdentitySeconds) failure) :
      Breaks machine settings files failure
  | refreshLifetime {failure : SettingsFailure} {privateKey : Rsa.PrivateKey}
      {publicKey : Rsa.PublicKey} {secret : Text} {identityLifetime : Int}
      (signing : settings.key machine files .signing Key.loadPrivate = .ok privateKey)
      (verifying : settings.key machine files .verifying Key.loadPublic = .ok publicKey)
      (secretGiven : settings.secret machine = .ok secret)
      (identityGiven : settings.lifetime machine identityLifetimeName defaultIdentitySeconds =
        .ok identityLifetime)
      (unfit : UnfitLifetime machine
        (settings.lifetimeSetting refreshLifetimeName defaultRefreshSeconds) failure) :
      Breaks machine settings files failure

end Settings

namespace TokenPolicy

open Settings

variable {machine : Machine} {settings : Settings} {files : FileTree}

/-- What escapes are the failures by which the reading is broken off. -/
theorem escapes_ofSettings_iff {failure : SettingsFailure} :
    Escapes (ofSettings machine settings files) failure ↔
      Breaks machine settings files failure := by
  rw [ofSettings_eq]
  simp only [escapes_bind_iff, escapes_key_iff keyLibrary.unsupportedPrivate,
    escapes_key_iff keyLibrary.unsupportedPublic, escapes_secret_iff, escapes_lifetime_iff]
  constructor
  · rintro (unfit | ⟨privateKey, signing, unfit | ⟨publicKey, verifying,
      ⟨setting, error, given, unwritten, rfl⟩ | ⟨secret, secretGiven, unfit | ⟨identityLifetime,
        identityGiven, unfit | ⟨refreshLifetime, -, escapes⟩⟩⟩⟩⟩)
    · exact .signingKey unfit
    · exact .verifyingKey signing unfit
    · exact .secret signing verifying given unwritten
    · exact .identityLifetime signing verifying secretGiven unfit
    · exact .refreshLifetime signing verifying secretGiven identityGiven unfit
    · exact absurd escapes (not_escapes_ok _)
  · intro breaks
    cases breaks with
    | signingKey unfit => exact .inl unfit
    | verifyingKey signing unfit => exact .inr ⟨_, signing, .inl unfit⟩
    | secret signing verifying given unwritten =>
        exact .inr ⟨_, signing, .inr ⟨_, verifying, .inl ⟨_, _, given, unwritten, rfl⟩⟩⟩
    | identityLifetime signing verifying secretGiven unfit =>
        exact .inr ⟨_, signing, .inr ⟨_, verifying, .inr ⟨_, secretGiven, .inl unfit⟩⟩⟩
    | refreshLifetime signing verifying secretGiven identityGiven unfit =>
        exact .inr ⟨_, signing, .inr ⟨_, verifying, .inr ⟨_, secretGiven,
          .inr ⟨_, identityGiven, .inl unfit⟩⟩⟩⟩

/-- Settings give a sound policy or a fault of theirs is told, except for settings by which the
reading is broken off.  Those end in the failure that breaks it off, which is told as another kind
of error. -/
theorem sound_or_told_iff (machine : Machine) (settings : Settings) (files : FileTree) :
    (((∃ policy, ofSettings machine settings files = .ok policy ∧ policy.IsSound) ∨
        ∃ error, ofSettings machine settings files = .error (.config error)) ↔
      ∀ failure, ¬Breaks machine settings files failure) ∧
    ∀ failure, Breaks machine settings files failure →
      ofSettings machine settings files = .error failure ∧ ¬failure.IsConfig := by
  have ends : ∀ failure, Breaks machine settings files failure →
      ofSettings machine settings files = .error failure ∧ ¬failure.IsConfig :=
    fun _ breaks => escapes_ofSettings_iff.mpr breaks
  refine ⟨⟨?_, ?_⟩, ends⟩
  · intro outcome failure breaks
    obtain ⟨failed, untold⟩ := ends failure breaks
    rcases outcome with ⟨policy, accepted, -⟩ | ⟨error, told⟩
    · rw [failed] at accepted
      cases accepted
    · exact untold ⟨error, Except.error.inj (failed.symm.trans told)⟩
  · intro unbroken
    cases given : ofSettings machine settings files with
    | ok policy => exact .inl ⟨policy, rfl, isSound_of_ofSettings given⟩
    | error failure =>
        have told : failure.IsConfig := by
          by_contra untold
          exact unbroken failure (escapes_ofSettings_iff.mp ⟨given, untold⟩)
        obtain ⟨error, rfl⟩ := told
        exact .inr ⟨error, rfl⟩

/-- Settings that are in order, but for a lifetime that is infinite. -/
def endlessSettings : Settings :=
  layOver [(identityLifetimeName, .value (.float (.infinite false)))] TokenService.farSettings

theorem endlessSettings_failure :
    Breaks .usual endlessSettings [] .outOfRange ∧
      ofSettings .usual endlessSettings [] = .error .outOfRange ∧
      ¬SettingsFailure.outOfRange.IsConfig := by
  have signing : endlessSettings.key .usual [] .signing Key.loadPrivate =
      .ok TokenService.farPolicy.privateKey := by decide +kernel
  have verifying : endlessSettings.key .usual [] .verifying Key.loadPublic =
      .ok TokenService.farPolicy.publicKey := by decide +kernel
  have secretGiven : endlessSettings.secret .usual = .ok TokenService.farPolicy.secret := by
    decide +kernel
  have breaks : Breaks .usual endlessSettings [] .outOfRange :=
    .identityLifetime signing verifying secretGiven (.infinite rfl)
  exact ⟨breaks, (sound_or_told_iff .usual endlessSettings []).2 _ breaks⟩

end TokenPolicy

end TokenAuthority
