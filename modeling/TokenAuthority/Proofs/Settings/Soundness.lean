import TokenAuthority.Proofs.Libraries
import TokenAuthority.Proofs.Settings.KeySource
import TokenAuthority.Proofs.Settings.Lifetime
import TokenAuthority.Proofs.Settings.Secret

/-!
Policies that are read from settings.

A policy is put together from five parts that are read in turn.  What each of them guarantees the
policy guarantees as a whole: its keys are RSA keys, its secret is not empty, and its lifetimes are
ahead.
-/

namespace TokenAuthority.TokenPolicy

open Settings

/-- Whether a policy can be worked with: its keys are RSA keys, its secret is not empty, and both
lifetimes are positive. -/
structure IsSound (policy : TokenPolicy) : Prop where
  signing : Key.Agrees policy.privateKey
  verifying : policy.publicKey.isWellFormed = true
  secret : policy.secret ≠ []
  identityLifetime : 0 < policy.identityLifetime
  refreshLifetime : 0 < policy.refreshLifetime

variable {machine : Machine} {settings : Settings} {files : FileTree}

theorem ofSettings_eq :
    ofSettings machine settings files = do
      let privateKey ← settings.key machine files .signing Key.loadPrivate
      let publicKey ← settings.key machine files .verifying Key.loadPublic
      let secret ← settings.secret machine
      let identityLifetime ← settings.lifetime machine identityLifetimeName defaultIdentitySeconds
      let refreshLifetime ← settings.lifetime machine refreshLifetimeName defaultRefreshSeconds
      return { privateKey, publicKey, secret, identityLifetime, refreshLifetime } := by
  unfold ofSettings Settings.key
  simp only [bind_assoc]

theorem isSound_of_ofSettings {policy : TokenPolicy}
    (accepted : ofSettings machine settings files = .ok policy) : policy.IsSound := by
  rw [ofSettings_eq] at accepted
  obtain ⟨privateKey, signing, accepted⟩ := exists_of_bind_eq_ok accepted
  obtain ⟨publicKey, verifying, accepted⟩ := exists_of_bind_eq_ok accepted
  obtain ⟨secret, secretGiven, accepted⟩ := exists_of_bind_eq_ok accepted
  obtain ⟨identityLifetime, identityGiven, accepted⟩ := exists_of_bind_eq_ok accepted
  obtain ⟨refreshLifetime, refreshGiven, accepted⟩ := exists_of_bind_eq_ok accepted
  obtain rfl := Except.ok.inj accepted
  obtain ⟨_, isPrivate⟩ := exists_load_of_key signing
  obtain ⟨_, isPublic⟩ := exists_load_of_key verifying
  exact
    { signing := keyLibrary.agrees isPrivate
      verifying := keyLibrary.wellFormed isPublic
      secret := secret_ne_nil secretGiven
      identityLifetime := lifetime_pos identityGiven
      refreshLifetime := lifetime_pos refreshGiven }

end TokenAuthority.TokenPolicy
