import TokenAuthority.Proofs.Key.Loading

/-!
Keys that are not supported.

A key names its algorithm, or the curve that it lies on.  Loading gives up on a key as unsupported
exactly if what it names is not known; every other key is loaded, refused as unreadable or locked,
or told to be no RSA key.
-/

namespace TokenAuthority.Key

variable {octets : Octets}

section Steps

variable {α β RsaKey : Type}

theorem readable_ne_unsupported {read : Option α} : readable read ≠ .error .unsupported := by
  cases read <;> simp [readable]

/-- What is readable goes on; what is not is no unsupported key. -/
theorem readable_bind_eq_unsupported_iff {read : Option α} {next : α → Except LoadError β} :
    (readable read >>= next) = .error .unsupported ↔
      ∃ value, read = some value ∧ next value = .error .unsupported := by
  rw [bind_eq_error_iff, or_iff_right readable_ne_unsupported]
  simp only [readable_eq_ok_iff]

theorem return_readable_ne_unsupported {read : Option α} {next : α → β} :
    (return next (← readable read) : Except LoadError β) ≠ .error .unsupported := by
  intro failed
  obtain ⟨value, -, isDone⟩ := readable_bind_eq_unsupported_iff.mp failed
  cases isDone

theorem otherIf_ne_unsupported {recognised : Bool} :
    (otherIf recognised : Except LoadError (AnyKey RsaKey)) ≠ .error .unsupported := by
  unfold otherIf
  cases recognised <;> simp

/-- Telling other keys from RSA keys is a failure of its own. -/
theorem bind_rsaOnly_eq_unsupported_iff {loaded : Except LoadError (AnyKey RsaKey)} :
    (loaded >>= AnyKey.rsaOnly) = .error .unsupported ↔ loaded = .error .unsupported := by
  rw [bind_eq_error_iff]
  constructor
  · rintro (failed | ⟨any, -, isOther⟩)
    · exact failed
    · cases any <;> cases isOther
  · exact .inl

end Steps

theorem curve_eq_unsupported_iff {parameters : CurveParameters} :
    curve parameters = .error .unsupported ↔ parameters.curve? = none := by
  unfold curve
  cases parameters.curve? <;> simp

/-! ### Private keys -/

/-- Whether a private key on a curve names a curve that is not known, in one way only. -/
def UnknownCurve (outer : Option CurveParameters) (octets : Octets) : Prop :=
  ∃ key parameters, readCurvePrivate? octets = some key ∧
    outer.or key.parameters = some parameters ∧ key.parameters.all (· = parameters) = true ∧
    parameters.curve? = none

/-- Whether a private key in the neutral format names an algorithm or a curve that is not known. -/
inductive UnknownPrivate (octets : Octets) : Prop
  | algorithm {content : Octets} (named : readNeutralPrivate? octets = some (.unknown, content))
  | curve {parameters : CurveParameters} {content : Octets}
      (named : readNeutralPrivate? octets = some (.ellipticCurve parameters, content))
      (unknown : UnknownCurve (some parameters) content)

/-- Whether a text holds a private key that is not supported: its block is not encrypted, and it is
of a format that names algorithms or curves. -/
inductive UnsupportedPrivate (octets : Octets) : Prop
  | neutral {block : Pem.Block} (found : Pem.firstLabelled? privateLabels octets = some block)
      (plain : checkPlain block = .ok ()) (label : block.label = "PRIVATE KEY")
      (unknown : UnknownPrivate block.octets)
  | onCurve {block : Pem.Block} (found : Pem.firstLabelled? privateLabels octets = some block)
      (plain : checkPlain block = .ok ()) (label : block.label = "EC PRIVATE KEY")
      (unknown : UnknownCurve none block.octets)

theorem curvePrivate_eq_unsupported_iff {outer : Option CurveParameters} :
    curvePrivate outer octets = .error .unsupported ↔ UnknownCurve outer octets := by
  unfold curvePrivate
  rw [readable_bind_eq_unsupported_iff]
  constructor
  · rintro ⟨key, isRead, failed⟩
    obtain ⟨parameters, named, failed⟩ := readable_bind_eq_unsupported_iff.mp failed
    split at failed
    · next consistent =>
        rcases of_bind_eq_error failed with unknown | ⟨curve, -, unfit⟩
        · exact ⟨key, parameters, isRead, named, consistent, curve_eq_unsupported_iff.mp unknown⟩
        · exact absurd unfit otherIf_ne_unsupported
    · cases failed
  · rintro ⟨key, parameters, isRead, named, consistent, unknown⟩
    refine ⟨key, isRead, readable_bind_eq_unsupported_iff.mpr ⟨parameters, named, ?_⟩⟩
    rw [if_pos consistent, curve_eq_unsupported_iff.mpr unknown]
    rfl

theorem neutralPrivate_eq_unsupported_iff :
    neutralPrivate octets = .error .unsupported ↔ UnknownPrivate octets := by
  unfold neutralPrivate
  rw [readable_bind_eq_unsupported_iff]
  constructor
  · rintro ⟨⟨algorithm, content⟩, named, failed⟩
    cases algorithm with
    | unknown => exact .algorithm named
    | ellipticCurve parameters =>
        exact .curve named (curvePrivate_eq_unsupported_iff.mp failed)
    | rsa => exact absurd failed return_readable_ne_unsupported
    | dsa => exact absurd failed otherIf_ne_unsupported
    | keyAgreement => exact absurd failed otherIf_ne_unsupported
    | octetString length => exact absurd failed otherIf_ne_unsupported
  · intro unknown
    cases unknown with
    | algorithm named => exact ⟨_, named, rfl⟩
    | curve named unknown => exact ⟨_, named, curvePrivate_eq_unsupported_iff.mpr unknown⟩

theorem checkPlain_ne_unsupported {block : Pem.Block} : checkPlain block ≠ .error .unsupported := by
  unfold checkPlain
  split
  · simp
  · split <;> simp

theorem dsaPrivate_ne_unsupported : dsaPrivate octets ≠ .error .unsupported := by
  unfold dsaPrivate
  split <;> simp

theorem privateOfBlock_eq_unsupported_iff {block : Pem.Block} :
    privateOfBlock block = .error .unsupported ↔ checkPlain block = .ok () ∧
      (block.label = "PRIVATE KEY" ∧ UnknownPrivate block.octets ∨
        block.label = "EC PRIVATE KEY" ∧ UnknownCurve none block.octets) := by
  unfold privateOfBlock
  rw [bind_eq_error_iff, or_iff_right checkPlain_ne_unsupported]
  constructor
  · rintro ⟨_, plain, failed⟩
    refine ⟨plain, ?_⟩
    split at failed
    · next label => exact .inl ⟨label, neutralPrivate_eq_unsupported_iff.mp failed⟩
    · exact absurd failed return_readable_ne_unsupported
    · next label => exact .inr ⟨label, curvePrivate_eq_unsupported_iff.mp failed⟩
    · exact absurd failed dsaPrivate_ne_unsupported
    · split at failed <;> cases failed
    · cases failed
  · rintro ⟨plain, ⟨label, unknown⟩ | ⟨label, unknown⟩⟩
    · refine ⟨(), plain, ?_⟩
      simp only [label]
      exact neutralPrivate_eq_unsupported_iff.mpr unknown
    · refine ⟨(), plain, ?_⟩
      simp only [label]
      exact curvePrivate_eq_unsupported_iff.mpr unknown

theorem loadPrivate_eq_unsupported_iff (octets : Octets) :
    loadPrivate octets = .error .unsupported ↔ UnsupportedPrivate octets := by
  unfold loadPrivate
  rw [readable_bind_eq_unsupported_iff]
  simp only [bind_rsaOnly_eq_unsupported_iff, privateOfBlock_eq_unsupported_iff]
  constructor
  · rintro ⟨block, found, plain, ⟨label, unknown⟩ | ⟨label, unknown⟩⟩
    · exact .neutral found plain label unknown
    · exact .onCurve found plain label unknown
  · intro unsupported
    cases unsupported with
    | neutral found plain label unknown => exact ⟨_, found, plain, .inl ⟨label, unknown⟩⟩
    | onCurve found plain label unknown => exact ⟨_, found, plain, .inr ⟨label, unknown⟩⟩

/-! ### Public keys -/

/-- Whether a text holds a public key that is not supported: the neutral format names an algorithm
or a curve that is not known. -/
inductive UnsupportedPublic (octets : Octets) : Prop
  | algorithm {block : Pem.Block} {content : Octets}
      (found : Pem.firstBlock? octets = some block) (label : block.label = "PUBLIC KEY")
      (named : readNeutralPublic? block.octets = some (.unknown, content))
  | curve {block : Pem.Block} {parameters : CurveParameters} {content : Octets}
      (found : Pem.firstBlock? octets = some block) (label : block.label = "PUBLIC KEY")
      (named : readNeutralPublic? block.octets = some (.ellipticCurve parameters, content))
      (unknown : parameters.curve? = none)

theorem neutralPublic_eq_unsupported_iff :
    neutralPublic octets = .error .unsupported ↔
      (∃ content, readNeutralPublic? octets = some (.unknown, content)) ∨
        ∃ parameters content, readNeutralPublic? octets =
          some (.ellipticCurve parameters, content) ∧ parameters.curve? = none := by
  unfold neutralPublic
  rw [readable_bind_eq_unsupported_iff]
  constructor
  · rintro ⟨⟨algorithm, content⟩, named, failed⟩
    cases algorithm with
    | unknown => exact .inl ⟨content, named⟩
    | ellipticCurve parameters =>
        rcases of_bind_eq_error failed with unknown | ⟨curve, -, unfit⟩
        · exact .inr ⟨parameters, content, named, curve_eq_unsupported_iff.mp unknown⟩
        · exact absurd unfit otherIf_ne_unsupported
    | rsa => exact absurd failed return_readable_ne_unsupported
    | dsa => exact absurd failed otherIf_ne_unsupported
    | keyAgreement => exact absurd failed otherIf_ne_unsupported
    | octetString length => exact absurd failed otherIf_ne_unsupported
  · rintro (⟨content, named⟩ | ⟨parameters, content, named, unknown⟩)
    · exact ⟨_, named, rfl⟩
    · refine ⟨_, named, ?_⟩
      simp only [curve_eq_unsupported_iff.mpr unknown]
      rfl

theorem publicOfBlock_eq_unsupported_iff {block : Pem.Block} :
    publicOfBlock block = .error .unsupported ↔
      block.label = "PUBLIC KEY" ∧ neutralPublic block.octets = .error .unsupported := by
  unfold publicOfBlock
  constructor
  · intro failed
    split at failed
    · next label => exact ⟨label, failed⟩
    · exact absurd failed return_readable_ne_unsupported
    · cases failed
  · rintro ⟨label, failed⟩
    simp only [label]
    exact failed

theorem loadPublic_eq_unsupported_iff (octets : Octets) :
    loadPublic octets = .error .unsupported ↔ UnsupportedPublic octets := by
  unfold loadPublic
  rw [readable_bind_eq_unsupported_iff]
  simp only [bind_rsaOnly_eq_unsupported_iff, publicOfBlock_eq_unsupported_iff,
    neutralPublic_eq_unsupported_iff]
  constructor
  · rintro ⟨block, found, label, ⟨content, named⟩ | ⟨parameters, content, named, unknown⟩⟩
    · exact .algorithm found label named
    · exact .curve found label named unknown
  · intro unsupported
    cases unsupported with
    | algorithm found label named => exact ⟨_, found, label, .inl ⟨_, named⟩⟩
    | curve found label named unknown => exact ⟨_, found, label, .inr ⟨_, _, named, unknown⟩⟩

end TokenAuthority.Key
