import TokenAuthority.Key.Loading
import TokenAuthority.Proofs.Service.Call

/-!
Which keys are loaded.

Whatever format a key is read from, it is an RSA key: the numbers of a private key agree, and those
of a public key are of the form that one has.  Keys of other algorithms are told apart before they
are handed out.
-/

namespace TokenAuthority.Key

variable {octets : Octets}

theorem readable_eq_ok_iff {α : Type} {read : Option α} {value : α} :
    readable read = .ok value ↔ read = some value := by
  cases read <;> simp [readable]

theorem AnyKey.rsaOnly_eq_ok_iff {RsaKey : Type} {any : AnyKey RsaKey} {key : RsaKey} :
    any.rsaOnly = .ok key ↔ any = .rsa key := by
  cases any <;> simp [rsaOnly]

theorem otherIf_ne_rsa {RsaKey : Type} {recognised : Bool} {key : RsaKey} :
    otherIf recognised ≠ .ok (.rsa key) := by
  unfold otherIf
  cases recognised <;> simp

/-! ### Private keys -/

/-- Whether a private key consists of numbers that agree. -/
def Agrees (key : Rsa.PrivateKey) : Prop :=
  ∃ parts : Rsa.Parts, parts.key? = some key

theorem agrees_of_rsaPrivate? {key : Rsa.PrivateKey} (isRead : rsaPrivate? octets = some key) :
    Agrees key := by
  unfold rsaPrivate? at isRead
  obtain ⟨items, -, isRead⟩ := Option.bind_eq_some_iff.mp isRead
  obtain ⟨numbers, -, isRead⟩ := Option.bind_eq_some_iff.mp isRead
  split at isRead
  · exact ⟨_, isRead⟩
  · cases isRead

theorem curvePrivate_ne_rsa {outer : Option CurveParameters} {key : Rsa.PrivateKey} :
    curvePrivate outer octets ≠ .ok (.rsa key) := by
  intro loaded
  unfold curvePrivate at loaded
  obtain ⟨onCurve, -, loaded⟩ := exists_of_bind_eq_ok loaded
  obtain ⟨parameters, -, loaded⟩ := exists_of_bind_eq_ok loaded
  split at loaded
  · obtain ⟨curve, -, loaded⟩ := exists_of_bind_eq_ok loaded
    exact otherIf_ne_rsa loaded
  · cases loaded

theorem dsaPrivate_ne_rsa {key : Rsa.PrivateKey} : dsaPrivate octets ≠ .ok (.rsa key) := by
  unfold dsaPrivate
  split <;> simp

theorem agrees_of_readable {key : Rsa.PrivateKey}
    (loaded : (return .rsa (← readable (rsaPrivate? octets)) :
      Except LoadError (AnyKey Rsa.PrivateKey)) = .ok (.rsa key)) : Agrees key := by
  obtain ⟨found, isRead, isFound⟩ := exists_of_bind_eq_ok loaded
  cases isFound
  exact agrees_of_rsaPrivate? (readable_eq_ok_iff.mp isRead)

theorem agrees_of_neutralPrivate {key : Rsa.PrivateKey}
    (loaded : neutralPrivate octets = .ok (.rsa key)) : Agrees key := by
  unfold neutralPrivate at loaded
  obtain ⟨⟨algorithm, content⟩, -, loaded⟩ := exists_of_bind_eq_ok loaded
  cases algorithm with
  | rsa => exact agrees_of_readable loaded
  | ellipticCurve parameters => exact absurd loaded curvePrivate_ne_rsa
  | dsa => exact absurd loaded otherIf_ne_rsa
  | keyAgreement => exact absurd loaded otherIf_ne_rsa
  | octetString length => exact absurd loaded otherIf_ne_rsa
  | unknown => cases loaded

theorem agrees_of_loadPrivate {key : Rsa.PrivateKey} (loaded : loadPrivate octets = .ok key) :
    Agrees key := by
  unfold loadPrivate at loaded
  obtain ⟨block, -, loaded⟩ := exists_of_bind_eq_ok loaded
  obtain ⟨any, isLoaded, isRsa⟩ := exists_of_bind_eq_ok loaded
  obtain rfl := AnyKey.rsaOnly_eq_ok_iff.mp isRsa
  unfold privateOfBlock at isLoaded
  obtain ⟨_, -, isLoaded⟩ := exists_of_bind_eq_ok isLoaded
  split at isLoaded
  · exact agrees_of_neutralPrivate isLoaded
  · exact agrees_of_readable isLoaded
  · exact absurd isLoaded curvePrivate_ne_rsa
  · exact absurd isLoaded dsaPrivate_ne_rsa
  · cases isLoaded
  · cases isLoaded

/-! ### Public keys -/

theorem isWellFormed_of_rsaPublic? {key : Rsa.PublicKey} (isRead : rsaPublic? octets = some key) :
    key.isWellFormed = true := by
  unfold rsaPublic? at isRead
  obtain ⟨items, -, isRead⟩ := Option.bind_eq_some_iff.mp isRead
  obtain ⟨numbers, -, isRead⟩ := Option.bind_eq_some_iff.mp isRead
  split at isRead
  · obtain ⟨wellFormed, isFound⟩ := Option.ite_none_right_eq_some.mp isRead
    obtain rfl := Option.some.inj isFound
    exact wellFormed
  · cases isRead

theorem isWellFormed_of_neutralPublic {key : Rsa.PublicKey}
    (loaded : neutralPublic octets = .ok (.rsa key)) : key.isWellFormed = true := by
  unfold neutralPublic at loaded
  obtain ⟨⟨algorithm, content⟩, -, loaded⟩ := exists_of_bind_eq_ok loaded
  cases algorithm with
  | rsa =>
      obtain ⟨found, isRead, isFound⟩ := exists_of_bind_eq_ok loaded
      cases isFound
      exact isWellFormed_of_rsaPublic? (readable_eq_ok_iff.mp isRead)
  | ellipticCurve parameters =>
      obtain ⟨curve, -, loaded⟩ := exists_of_bind_eq_ok loaded
      exact absurd loaded otherIf_ne_rsa
  | dsa => exact absurd loaded otherIf_ne_rsa
  | keyAgreement => exact absurd loaded otherIf_ne_rsa
  | octetString length => exact absurd loaded otherIf_ne_rsa
  | unknown => cases loaded

theorem isWellFormed_of_rsaLabelled? {key : Rsa.PublicKey}
    (isRead : rsaLabelled? octets = some key) : key.isWellFormed = true := by
  unfold rsaLabelled? at isRead
  rcases Option.or_eq_some_iff.mp isRead with isPlain | ⟨-, isNeutral⟩
  · exact isWellFormed_of_rsaPublic? isPlain
  · obtain ⟨any, isLoaded, isRsa⟩ := exists_of_bind_eq_ok (eq_ok_of_toOption isNeutral)
    obtain rfl := AnyKey.rsaOnly_eq_ok_iff.mp isRsa
    exact isWellFormed_of_neutralPublic isLoaded

theorem isWellFormed_of_loadPublic {key : Rsa.PublicKey} (loaded : loadPublic octets = .ok key) :
    key.isWellFormed = true := by
  unfold loadPublic at loaded
  obtain ⟨block, -, loaded⟩ := exists_of_bind_eq_ok loaded
  obtain ⟨any, isLoaded, isRsa⟩ := exists_of_bind_eq_ok loaded
  obtain rfl := AnyKey.rsaOnly_eq_ok_iff.mp isRsa
  unfold publicOfBlock at isLoaded
  split at isLoaded
  · exact isWellFormed_of_neutralPublic isLoaded
  · obtain ⟨found, isRead, isFound⟩ := exists_of_bind_eq_ok isLoaded
    cases isFound
    exact isWellFormed_of_rsaLabelled? (readable_eq_ok_iff.mp isRead)
  · cases isLoaded

end TokenAuthority.Key
