import Mathlib.FieldTheory.Finite.Basic
import Mathlib.NumberTheory.LucasLehmer
import TokenAuthority.Proofs.Number.Modular
import TokenAuthority.Proofs.Octets.Basic
import TokenAuthority.Rsa.Parts
import TokenAuthority.Rsa.Signature

/-!
A key accepts what its private half has signed.

The encoding of a message is a number below the modulus.  Raised to one exponent and then to the
other it comes back modulo each prime, by Fermat's little theorem, and therefore modulo their
product.
-/

namespace TokenAuthority.Rsa

/-- Whether a public key accepts every signature by a private key. -/
def Matches (key : PrivateKey) (check : PublicKey) : Prop :=
  ∀ message signature, sign? key message = some signature →
    verify check message signature = true

/-! ### Powers -/

/-- A power whose exponent is one modulo the order of the units leaves every residue as it is. -/
theorem pow_modEq_of_prime {prime exponent : Nat} (isPrime : prime.Prime) (positive : 0 < exponent)
    (inverse : exponent ≡ 1 [MOD prime - 1]) (base : Nat) :
    base ^ exponent ≡ base [MOD prime] := by
  have : Fact prime.Prime := ⟨isPrime⟩
  obtain ⟨turns, split⟩ := (Nat.modEq_iff_dvd' positive).mp inverse.symm
  have isExponent : exponent = 1 + (prime - 1) * turns := by omega
  rw [← ZMod.natCast_eq_natCast_iff, Nat.cast_pow, isExponent]
  by_cases isZero : (base : ZMod prime) = 0
  · rw [isZero, pow_add, pow_one, zero_mul]
  · rw [pow_add, pow_one, pow_mul, ZMod.pow_card_sub_one_eq_one isZero, one_pow, mul_one]

theorem pow_modEq_of_primes {first second exponent : Nat} (firstPrime : first.Prime)
    (secondPrime : second.Prime) (differ : first ≠ second) (positive : 0 < exponent)
    (inverse : exponent ≡ 1 [MOD Nat.lcm (first - 1) (second - 1)]) (base : Nat) :
    base ^ exponent ≡ base [MOD first * second] := by
  have coprime : Nat.Coprime first second := (Nat.coprime_primes firstPrime secondPrime).mpr differ
  refine (Nat.modEq_and_modEq_iff_modEq_mul coprime).mp ⟨?_, ?_⟩
  · exact pow_modEq_of_prime firstPrime positive (inverse.of_dvd (Nat.dvd_lcm_left _ _)) base
  · exact pow_modEq_of_prime secondPrime positive (inverse.of_dvd (Nat.dvd_lcm_right _ _)) base

/-! ### Encodings -/

theorem pow_octetLength_le {modulus : Nat} (positive : 0 < modulus) :
    256 ^ (octetLength modulus - 1) ≤ modulus := by
  have notZero : modulus ≠ 0 := Nat.pos_iff_ne_zero.mp positive
  unfold octetLength
  rw [if_neg notZero, Nat.add_sub_cancel]
  calc 256 ^ (modulus.log2 / 8)
      = 2 ^ (8 * (modulus.log2 / 8)) := (pow_mul 2 8 _).symm
    _ ≤ 2 ^ modulus.log2 := Nat.pow_le_pow_right (by decide) (Nat.mul_div_le _ _)
    _ ≤ modulus := Nat.log2_self_le notZero

theorem lt_pow_octetLength {modulus : Nat} (positive : 0 < modulus) :
    modulus < 256 ^ octetLength modulus := by
  have notZero : modulus ≠ 0 := Nat.pos_iff_ne_zero.mp positive
  unfold octetLength
  rw [if_neg notZero]
  calc modulus
      < 2 ^ (modulus.log2 + 1) := Nat.lt_log2_self
    _ ≤ 2 ^ (8 * (modulus.log2 / 8 + 1)) := Nat.pow_le_pow_right (by decide) (by omega)
    _ = 256 ^ (modulus.log2 / 8 + 1) := pow_mul 2 8 _

theorem length_digest (message : Octets) : (Sha256.digest message).length = 32 := by
  simp [Sha256.digest, Sha256.State.octets]

/-- An encoding begins with a zero, which makes it a number below the modulus. -/
theorem toNat_encoding_lt {modulus : Nat} (positive : 0 < modulus) {message encoding : Octets}
    (encodes : encoding? (octetLength modulus) message = some encoding) :
    Octets.toNat encoding < modulus := by
  unfold encoding? at encodes
  split at encodes
  · cases encodes
  · next enough =>
      rw [Option.some.injEq] at encodes
      have fits := pow_octetLength_le positive
      unfold encodingLength at enough
      refine Nat.lt_of_lt_of_le ?_ fits
      rw [← encodes, List.cons_append, Octets.toNat_zero_cons]
      refine Nat.lt_of_lt_of_eq (Octets.toNat_lt _) (congrArg _ ?_)
      simp only [List.cons_append, List.length_cons, List.length_append, List.length_replicate,
        length_digest, digestHeader, List.length_nil]
      omega

/-! ### Signatures -/

/-- A key accepts the signature of a message that its exponent takes back to the encoding. -/
theorem verify_ofNat {key : PublicKey} {message encoding : Octets} {value : Nat}
    (positive : 0 < key.modulus) (verifying : key.isVerifying = true)
    (encodes : encoding? (octetLength key.modulus) message = some encoding)
    (reduced : value < key.modulus)
    (comesBack : value ^ key.exponent % key.modulus = Octets.toNat encoding) :
    verify key message (Octets.ofNat (octetLength key.modulus) value) = true := by
  have fits : value < 256 ^ octetLength key.modulus :=
    Nat.lt_trans reduced (lt_pow_octetLength positive)
  unfold verify
  simp only [encodes, verifying, Octets.length_ofNat, Octets.toNat_ofNat fits, reduced,
    Modular.power_eq, comesBack, beq_self_eq_true, decide_true, Bool.and_self]

/-- Exponents that take every number back modulo the modulus make matching keys, if only the public
one is of a size that verification takes. -/
theorem matches_of_pow_modEq {key : PrivateKey} (positive : 0 < key.modulus)
    (verifying : key.publicKey.isVerifying = true)
    (takesBack : ∀ base, base ^ (key.privateExponent * key.publicExponent) ≡ base
      [MOD key.modulus]) : Matches key key.publicKey := by
  intro message signature signs
  unfold sign? at signs
  obtain ⟨encoding, encodes, isSignature⟩ := Option.map_eq_some_iff.mp signs
  have below := toNat_encoding_lt positive encodes
  rw [← isSignature, Modular.power_eq]
  refine verify_ofNat positive verifying encodes (Nat.mod_lt _ positive) ?_
  calc (Octets.toNat encoding ^ key.privateExponent % key.modulus) ^ key.publicExponent %
        key.modulus
      = Octets.toNat encoding ^ (key.privateExponent * key.publicExponent) % key.modulus := by
        rw [← Nat.pow_mod, pow_mul]
    _ = Octets.toNat encoding % key.modulus := takesBack _
    _ = Octets.toNat encoding := Nat.mod_eq_of_lt below

/-- Parts that agree make matching keys if their factors are primes. -/
theorem matches_of_key? {parts : Parts} {key : PrivateKey} (agrees : parts.key? = some key)
    (primeP : parts.primeP.Prime) (primeQ : parts.primeQ.Prime)
    (verifying : key.publicKey.isVerifying = true) : Matches key key.publicKey := by
  unfold Parts.key? Parts.agree Parts.modulusFits Parts.exponentsFit Parts.reductionsFit at agrees
  split at agrees
  · next fits =>
      simp only [Bool.and_eq_true, beq_iff_eq, decide_eq_true_eq] at fits
      obtain ⟨⟨⟨⟨⟨-, product⟩, inverse⟩, -, coefficient⟩, -⟩, -⟩ := fits
      rw [Option.some.injEq] at agrees
      subst agrees
      have differ : parts.primeP ≠ parts.primeQ := by
        intro same
        rw [same, Nat.mul_mod_left] at coefficient
        cases coefficient
      have exponentPositive : 0 < parts.privateExponent * parts.publicExponent := by
        apply Nat.pos_of_ne_zero
        intro isZero
        rw [Nat.mul_comm, isZero, Nat.zero_mod] at inverse
        cases inverse
      have congruent : parts.privateExponent * parts.publicExponent ≡ 1
          [MOD Nat.lcm (parts.primeP - 1) (parts.primeQ - 1)] := by
        have isOne := Nat.mod_mod (parts.publicExponent * parts.privateExponent)
          (Nat.lcm (parts.primeP - 1) (parts.primeQ - 1))
        rw [inverse] at isOne
        rw [Nat.ModEq, Nat.mul_comm, inverse, isOne]
      have positive : 0 < parts.modulus := by
        rw [product]
        exact Nat.mul_pos primeP.pos primeQ.pos
      apply matches_of_pow_modEq positive verifying
      intro base
      simp only [product]
      exact pow_modEq_of_primes primeP primeQ differ exponentPositive congruent base
  · cases agrees

/-! ### A sample -/

/-- The numbers of a key of 648 bits, whose factors are Mersenne primes. -/
def mersenneParts : Parts where
  modulus := (2 ^ 521 - 1) * (2 ^ 127 - 1)
  publicExponent := 65537
  privateExponent :=
    0x2a7fd5802a7fd5802a7fd5802a7fd57f80807f7f80807f7f80807f7f80807f7f80807f7f80807f7f80 <<< 320 +
      0x807f7f80807f7f80807f7f80807f7f80807f7f80807f7f8055ffaa0055ffaa0055ffaa0055ffaa01
  primeP := 2 ^ 521 - 1
  primeQ := 2 ^ 127 - 1
  exponentP :=
    0x180807f7f80807f7f80807f7f80807f7f80807f7f80807f7f80807f7f80807f7f80 <<< 256 +
      0x807f7f80807f7f80807f7f80807f7f80807f7f80807f7f80807f7f80807f7f7f
  exponentQ := 0x5555aaaa5555aaaa5555aaaa5555aaa9
  coefficient := 0x4912489244922491248924492249124892249124892449224912489244922491 <<< 264 +
      0x244922491248924492249124892449224892449224912489244922491248924491

def mersenneKey : PrivateKey where
  modulus := mersenneParts.modulus
  publicExponent := mersenneParts.publicExponent
  privateExponent := mersenneParts.privateExponent

theorem matches_mersenneKey : Matches mersenneKey mersenneKey.publicKey := by
  have agrees : mersenneParts.key? = some mersenneKey := by decide +kernel
  have primeP : Nat.Prime (2 ^ 521 - 1) := lucas_lehmer_sufficiency 521 (by norm_num) (by norm_num)
  have primeQ : Nat.Prime (2 ^ 127 - 1) := lucas_lehmer_sufficiency 127 (by norm_num) (by norm_num)
  have verifying : mersenneKey.publicKey.isVerifying = true := by decide +kernel
  exact matches_of_key? agrees primeP primeQ verifying

end TokenAuthority.Rsa
