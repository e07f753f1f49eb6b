import TokenAuthority.Proofs.Key.Loading
import TokenAuthority.Proofs.Key.Unsupported
import TokenAuthority.Proofs.Rsa.Signature
import TokenAuthority.Proofs.Token.Claims
import TokenAuthority.Proofs.Token.Compact
import TokenAuthority.Proofs.User.Snapshot

/-!
What is relied on of libraries.

Tokens are signed, opened and checked, keys are loaded and forms are read by libraries.  What the
program relies on is told here, for any definitions that could stand for them, and it is met by the
ones that the program runs with.  What is said about tokens and policies goes back to these laws,
and not to how the definitions meet them.
-/

namespace TokenAuthority

open Compact (SigningKey VerificationKey)

/-- Whether a key opens what another one signs. -/
inductive Compact.Fits : SigningKey → VerificationKey → Prop
  | rsa {key : Rsa.PrivateKey} {check : Rsa.PublicKey} (fits : Rsa.Matches key check) :
      Fits (.rsa key) (.rsa check)
  | secret (text : Text) : Fits (.secret text) (.secret text)

/-- What is relied on when tokens are signed, opened and checked. -/
structure TokenLibrary (sign? : SigningKey → Json → Option String)
    (open? : VerificationKey → Text → Option (List (Text × Json)))
    (check : List String → Int → List (Text × Json) → Except VerificationFault Unit) : Prop where
  /-- Whether a key signs depends on the length of its modulus only. -/
  signs_rsa : ∀ key payload, (sign? (.rsa key) payload).isSome =
    decide (Rsa.encodingLength ≤ Rsa.octetLength key.modulus)
  /-- Whether a secret signs depends on whether it may be one. -/
  signs_secret : ∀ secret payload, (sign? (.secret secret) payload).isSome =
    (Secret.octets? secret).isSome
  /-- A fitting key opens a token to what was signed, with its surrogates joined. -/
  opens : ∀ {key : SigningKey} {fitting : VerificationKey} {members : List (Text × Json)}
    {token : String}, Compact.Fits key fitting → sign? key (.object members) = some token →
      Json.IsReadable Compact.nestingLimit (.object members) →
        open? fitting token = some (Json.joinedMembers members)
  /-- Only keys of one algorithm open a token. -/
  oneAlgorithm : ∀ {first second : VerificationKey} {token : Text}
    {claims others : List (Text × Json)}, open? first token = some claims →
      open? second token = some others → first.algorithm = second.algorithm
  /-- A payload that is nested too deep is refused like any other that is not read. -/
  refusesDeep : ∀ {key : VerificationKey} {token : Text} {message : Compact.Message},
    Compact.read? key.algorithm token = some message →
      Json.readOctets Compact.nestingLimit message.payload = .error .tooDeep →
        open? key token = none
  /-- The check is passed by the claims that hold, and a number without end is no integer. -/
  holds : ∀ required now claims, check required now claims = .ok () ↔
    Claims.Hold required now claims
  /-- Claims that tell a lifespan hold while it is current, and are refused at other instants. -/
  lasts : ∀ {required : List String} {claims : List (Text × Json)} {lifespan : Claims.Lifespan},
    lifespan.IsToldBy required claims → ∀ now,
      check required now claims = Claims.refuseUnless (lifespan.isCurrent now)
  /-- Claims that do not hold are refused by faults that are expected of every token. -/
  fails : ∀ kind required now claims, FailsAsExpected kind (check required now claims)

/-- What is relied on when keys are loaded. -/
structure KeyLibrary (loadPrivate : Octets → Except Key.LoadError Rsa.PrivateKey)
    (loadPublic : Octets → Except Key.LoadError Rsa.PublicKey) : Prop where
  /-- The numbers of a private key agree. -/
  agrees : ∀ {octets : Octets} {key : Rsa.PrivateKey}, loadPrivate octets = .ok key →
    Key.Agrees key
  /-- A public key has the form of one. -/
  wellFormed : ∀ {octets : Octets} {key : Rsa.PublicKey}, loadPublic octets = .ok key →
    key.isWellFormed = true
  /-- Which private keys are told to be of an algorithm that is not known. -/
  unsupportedPrivate : ∀ octets, loadPrivate octets = .error .unsupported ↔
    Key.UnsupportedPrivate octets
  /-- Which public keys are. -/
  unsupportedPublic : ∀ octets, loadPublic octets = .error .unsupported ↔
    Key.UnsupportedPublic octets

/-- What is relied on when forms are read. -/
structure FormLibrary (loadUser : Json → Except FormProblems UserSnapshot)
    (loadRequest : Json → Except FormProblems Text) : Prop where
  /-- A user is read from an object that tells about them. -/
  tells : ∀ value user, loadUser value = .ok user ↔
    ∃ members, value = .object members ∧ UserSnapshot.Tells members user
  /-- Any other value is refused for what it is to be blamed for, each member once. -/
  blames : ∀ value, (¬∃ members user, value = .object members ∧
      UserSnapshot.Tells members user) →
    ∃ problems, loadUser value = .error problems ∧ (problems.map Prod.fst).Nodup ∧
      ∀ name problem, (name, problem) ∈ problems ↔ UserSnapshot.Blames value name problem
  /-- A token is read from an object that has it for its only member. -/
  presents : ∀ value token, loadRequest value = .ok token ↔ IsRotationForm value token

/-- What the program relies on of libraries. -/
structure Libraries (sign? : SigningKey → Json → Option String)
    (open? : VerificationKey → Text → Option (List (Text × Json)))
    (check : List String → Int → List (Text × Json) → Except VerificationFault Unit)
    (loadPrivate : Octets → Except Key.LoadError Rsa.PrivateKey)
    (loadPublic : Octets → Except Key.LoadError Rsa.PublicKey)
    (loadUser : Json → Except FormProblems UserSnapshot)
    (loadRequest : Json → Except FormProblems Text) : Prop where
  tokens : TokenLibrary sign? open? check
  keys : KeyLibrary loadPrivate loadPublic
  forms : FormLibrary loadUser loadRequest

/-! ### The definitions that the program runs with -/

namespace Compact

theorem Fits.algorithm_eq {key : SigningKey} {check : VerificationKey} (fits : Fits key check) :
    check.algorithm = key.algorithm := by
  cases fits <;> rfl

theorem Fits.verify {key : SigningKey} {check : VerificationKey} (fits : Fits key check)
    {message signature : Octets} (signs : key.sign? message = some signature) :
    check.verify message signature = true := by
  cases fits with
  | rsa fits => exact fits message signature signs
  | secret text => exact verify_secret signs

theorem open?_of_tooDeep {key : VerificationKey} {token : Text} {message : Message}
    (isRead : read? key.algorithm token = some message)
    (tooDeep : Json.readOctets nestingLimit message.payload = .error .tooDeep) :
    open? key token = none := by
  unfold open? readMembers?
  rw [isRead, Option.bind_eq_bind, Option.bind_some, tooDeep]
  exact ite_self none

end Compact

theorem tokenLibrary : TokenLibrary Compact.sign? Compact.open? Claims.check where
  signs_rsa := Compact.isSome_sign?_rsa
  signs_secret := Compact.isSome_sign?_secret
  opens := by
    intro key check members token fits isSigned readable
    exact Compact.open?_of_sign? isSigned fits.algorithm_eq (fun _ _ => fits.verify) readable
  oneAlgorithm := by
    intro first second token claims others opened alsoOpened
    obtain ⟨one, isRead⟩ := Compact.exists_message_of_open? opened
    obtain ⟨other, isAlsoRead⟩ := Compact.exists_message_of_open? alsoOpened
    exact Compact.algorithm_unique isRead isAlsoRead
  refusesDeep := Compact.open?_of_tooDeep
  holds := fun _ _ _ => Claims.check_eq_ok_iff
  lasts := Claims.Lifespan.IsToldBy.check_eq
  fails := fun _ => Claims.failsAsExpected_check

theorem keyLibrary : KeyLibrary Key.loadPrivate Key.loadPublic where
  agrees := Key.agrees_of_loadPrivate
  wellFormed := Key.isWellFormed_of_loadPublic
  unsupportedPrivate := Key.loadPrivate_eq_unsupported_iff
  unsupportedPublic := Key.loadPublic_eq_unsupported_iff

theorem formLibrary : FormLibrary UserSnapshot.load loadRotationRequest where
  tells := fun _ _ => UserSnapshot.load_eq_ok_iff
  blames := fun _ => UserSnapshot.load_of_not_tells
  presents := fun _ _ => loadRotationRequest_eq_ok_iff

theorem libraries :
    Libraries Compact.sign? Compact.open? Claims.check Key.loadPrivate Key.loadPublic
      UserSnapshot.load loadRotationRequest :=
  ⟨tokenLibrary, keyLibrary, formLibrary⟩

end TokenAuthority
