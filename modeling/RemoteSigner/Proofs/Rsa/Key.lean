import Mathlib.FieldTheory.Finite.Basic
import RemoteSigner.Proofs.Arithmetic.Modular
import RemoteSigner.Proofs.Octets.Faithful
import RemoteSigner.Proofs.Outcomes
import RemoteSigner.Rsa.Key

/-!
# The operations of an RSA key

A number below the modulus survives the public operation and the private one behind it, if the
factors of the modulus are two prime numbers.  That is all that encryption and signatures need to
know of a key; nothing in the program tests whether the factors are prime.

## Main definitions

* `PrivateKey.Inverts`: the private operation undoes the public one
* `PrivateKey.MadeOfPrimes`: the factors are two prime numbers

## Main results

* `PublicKey.modulus_lt`, `PublicKey.le_modulus`: the modulus needs all octets of its size
* `PrivateKey.applyOctets_raise`: octets survive both operations
* `PrivateKey.exists_applyOctets`: when the private operation succeeds
* `PrivateKey.MadeOfPrimes.inverts`: a key made of two prime numbers inverts
-/

namespace RemoteSigner.Rsa

/-! ## The public operation -/

namespace PublicKey

variable {key : PublicKey}

theorem raise_eq (key : PublicKey) (n : Nat) : key.raise n = n ^ key.exponent % key.modulus :=
  Modular.power_eq _ _ _

theorem modulus_odd_of_isValid (valid : key.isValid = true) : key.modulus % 2 = 1 := by
  simp only [isValid, Bool.and_eq_true, beq_iff_eq] at valid
  exact valid.1.1.1.1

theorem modulus_pos_of_isValid (valid : key.isValid = true) : 0 < key.modulus := by
  have := modulus_odd_of_isValid valid
  omega

theorem raise_lt (positive : 0 < key.modulus) (n : Nat) : key.raise n < key.modulus := by
  rw [raise_eq]
  exact Nat.mod_lt _ positive

theorem modulus_lt (positive : 0 < key.modulus) : key.modulus < 256 ^ key.size := by
  have enough : Nat.log2 key.modulus + 1 ≤ 8 * key.size := by
    rw [size, bits, if_neg positive.ne']
    omega
  calc key.modulus < 2 ^ (Nat.log2 key.modulus + 1) := Nat.lt_log2_self
    _ ≤ 2 ^ (8 * key.size) := Nat.pow_le_pow_right (by decide) enough
    _ = 256 ^ key.size := pow_mul 2 8 key.size

theorem le_modulus (positive : 0 < key.modulus) : 256 ^ (key.size - 1) ≤ key.modulus := by
  have needed : 8 * (key.size - 1) ≤ Nat.log2 key.modulus := by
    rw [size, bits, if_neg positive.ne']
    omega
  calc 256 ^ (key.size - 1) = 2 ^ (8 * (key.size - 1)) := (pow_mul 2 8 _).symm
    _ ≤ 2 ^ Nat.log2 key.modulus := Nat.pow_le_pow_right (by decide) needed
    _ ≤ key.modulus := Nat.log2_self_le positive.ne'

theorem two_pow_le_modulus (positive : 0 < key.modulus) : 2 ^ (key.bits - 1) ≤ key.modulus := by
  rw [bits, if_neg positive.ne', Nat.add_sub_cancel]
  exact Nat.log2_self_le positive.ne'

end PublicKey

/-! ## The private operation -/

namespace PrivateKey

variable {key : PrivateKey}

/-- The private operation undoes the public one on numbers below the modulus. -/
def Inverts (key : PrivateKey) : Prop := ∀ n < key.modulus, key.lower (key.raise n) = n

theorem isValid_of_isConsistent (consistent : key.isConsistent = true) : key.isValid = true := by
  simp only [isConsistent, Bool.and_eq_true] at consistent
  exact consistent.1.1.1.1.1.1

theorem product_of_isConsistent (consistent : key.isConsistent = true) :
    key.p * key.q = key.modulus := by
  simp only [isConsistent, Bool.and_eq_true, beq_iff_eq] at consistent
  exact consistent.1.1.1.2

theorem apply_raise (positive : 0 < key.modulus) (inverts : key.Inverts) {n : Nat}
    (below : n < key.modulus) : key.apply (key.raise n) = .ok n := by
  have reduced := PublicKey.raise_lt positive n
  rw [apply, if_neg (Nat.not_le.mpr reduced), inverts n below]
  exact if_pos rfl

/-- Octets that spell a number below the modulus survive both operations. -/
theorem applyOctets_raise (positive : 0 < key.modulus) (inverts : key.Inverts) {octets : Bytes}
    (whole : octets.length = key.size) (below : Bytes.toNatural octets < key.modulus) :
    key.applyOctets (Bytes.ofNatural key.size (key.raise (Bytes.toNatural octets))) =
      .ok octets := by
  have raised := (PublicKey.raise_lt positive (Bytes.toNatural octets)).trans
    (PublicKey.modulus_lt positive)
  rw [applyOctets, Bytes.toNatural_ofNatural raised, apply_raise positive inverts below]
  exact congrArg Except.ok (Bytes.ofNatural_toNatural whole)

/-- Where the private operation undoes the public one, every number below the modulus is a power:
there are no more powers than numbers. -/
theorem exists_root (positive : 0 < key.modulus) (inverts : key.Inverts) {n : Nat}
    (below : n < key.modulus) : ∃ root < key.modulus, key.raise root = n := by
  let power (i : Fin key.modulus) : Fin key.modulus := ⟨key.raise i, PublicKey.raise_lt positive i⟩
  have injective : power.Injective := by
    intro i j same
    have back := congrArg key.lower (Fin.val_eq_of_eq same)
    rw [inverts i i.isLt, inverts j j.isLt] at back
    exact Fin.ext back
  obtain ⟨root, isRoot⟩ := Finite.injective_iff_surjective.mp injective ⟨n, below⟩
  exact ⟨root, root.isLt, congrArg Fin.val isRoot⟩

/-- Where the private operation undoes the public one, the public one undoes the private one. -/
theorem raise_lower (positive : 0 < key.modulus) (inverts : key.Inverts) {n : Nat}
    (below : n < key.modulus) : key.raise (key.lower n) = n := by
  obtain ⟨root, small, rfl⟩ := exists_root positive inverts below
  rw [inverts root small]

theorem lower_lt (positive : 0 < key.modulus) (inverts : key.Inverts) {n : Nat}
    (below : n < key.modulus) : key.lower n < key.modulus := by
  obtain ⟨root, small, rfl⟩ := exists_root positive inverts below
  rw [inverts root small]
  exact small

/-- The private operation succeeds on all numbers below the modulus, and the public operation undoes
it. -/
theorem exists_applyOctets (inverts : key.Inverts) {octets : Bytes}
    (below : Bytes.toNatural octets < key.modulus) : ∃ result, key.applyOctets octets = .ok result ∧
      Bytes.toNatural result < key.modulus ∧
      key.raise (Bytes.toNatural result) = Bytes.toNatural octets := by
  have positive := Nat.zero_lt_of_lt below
  have raised := raise_lower positive inverts below
  have small := lower_lt positive inverts below
  have back := Bytes.toNatural_ofNatural (small.trans (PublicKey.modulus_lt positive))
  refine ⟨Bytes.ofNatural key.size (key.lower (Bytes.toNatural octets)), ?_, ?_, ?_⟩
  · rw [applyOctets, apply, if_neg (Nat.not_le.mpr below), if_pos raised]
    rfl
  · rwa [back]
  · rw [back, raised]

/-- The private operation wants a modulus, and its result fills the octets of the modulus. -/
theorem of_applyOctets {octets result : Bytes} (applied : key.applyOctets octets = .ok result) :
    0 < key.modulus ∧ result.length = key.size := by
  rw [applyOctets] at applied
  obtain ⟨n, ok, same⟩ := bind_eq_ok_iff.mp applied
  obtain rfl := Except.ok.inj same
  refine ⟨?_, Bytes.length_ofNatural _ _⟩
  by_contra none
  rw [apply, if_pos (by omega)] at ok
  cases ok

/-! ## Keys made of prime numbers -/

/-- Fermat's little theorem for exponents that leave one. -/
theorem pow_modEq_self {prime exponent : Nat} (isPrime : prime.Prime) (positive : 1 ≤ exponent)
    (leaves : prime - 1 ∣ exponent - 1) (n : Nat) : n ^ exponent ≡ n [MOD prime] := by
  obtain ⟨rounds, count⟩ := leaves
  have split : exponent = (prime - 1) * rounds + 1 := by omega
  by_cases divides : prime ∣ n
  · have zero := Nat.modEq_zero_iff_dvd.mpr divides
    have power := Nat.modEq_zero_iff_dvd.mpr (dvd_pow divides (Nat.ne_of_gt positive))
    exact power.trans zero.symm
  · have coprime : n.Coprime prime := ((Nat.Prime.coprime_iff_not_dvd isPrime).mpr divides).symm
    have round := Nat.ModEq.pow_totient coprime
    rw [Nat.totient_prime isPrime] at round
    have all : n ^ exponent ≡ 1 ^ rounds * n [MOD prime] := by
      rw [split, pow_succ, pow_mul]
      exact (round.pow rounds).mul_right n
    rw [one_pow, one_mul] at all
    exact all

/-- The exponent that is reduced modulo one less than an odd prime number undoes the other one as
well as the whole exponent does. -/
theorem pow_pow_mod_modEq {prime exponent other : Nat} (isPrime : prime.Prime) (odd : prime ≠ 2)
    (positive : 1 ≤ exponent * other) (leaves : (exponent * other - 1) % (prime - 1) = 0) (n : Nat) :
    (n ^ exponent) ^ (other % (prime - 1)) ≡ n [MOD prime] := by
  have large := isPrime.two_le
  have one : exponent * other ≡ 1 [MOD prime - 1] :=
    ((Nat.modEq_iff_dvd' positive).mpr (Nat.dvd_of_mod_eq_zero leaves)).symm
  have reduced : exponent * (other % (prime - 1)) ≡ 1 [MOD prime - 1] :=
    ((Nat.mod_modEq other (prime - 1)).mul_left exponent).trans one
  have nonzero : 1 ≤ exponent * (other % (prime - 1)) := by
    by_contra none
    have zero : exponent * (other % (prime - 1)) = 0 := by omega
    rw [zero, Nat.ModEq, Nat.zero_mod, Nat.mod_eq_of_lt (by omega)] at reduced
    exact absurd reduced (by decide)
  rw [← pow_mul]
  exact pow_modEq_self isPrime nonzero ((Nat.modEq_iff_dvd' nonzero).mp reduced.symm) n

/-- The number that is put together from two remainders has the first of them modulo `p`. -/
theorem recombined_modEq {p q inverse : Nat} (positive : 0 < p)
    (inverts : inverse * q ≡ 1 [MOD p]) (first second : Nat) :
    (first + p - second % p) * inverse % p * q + second ≡ first [MOD p] := by
  have below := Nat.mod_lt second positive
  have difference : (first + p - second % p) * inverse % p * q ≡ first + p - second % p [MOD p] := by
    calc (first + p - second % p) * inverse % p * q
        ≡ (first + p - second % p) * inverse * q [MOD p] := (Nat.mod_modEq _ _).mul_right q
      _ = (first + p - second % p) * (inverse * q) := Nat.mul_assoc _ _ _
      _ ≡ (first + p - second % p) * 1 [MOD p] := inverts.mul_left _
      _ = first + p - second % p := Nat.mul_one _
  calc (first + p - second % p) * inverse % p * q + second
      ≡ first + p - second % p + second % p [MOD p] := difference.add (Nat.mod_modEq second p).symm
    _ = first + p := by omega
    _ ≡ first [MOD p] := Nat.add_modEq_right

/-- The number that is put together from two remainders is below the modulus. -/
theorem recombined_lt {p q inverse first second : Nat} (positive : 0 < p) (small : second < q) :
    (first + p - second % p) * inverse % p * q + second < p * q := by
  have below := Nat.mod_lt ((first + p - second % p) * inverse) positive
  calc (first + p - second % p) * inverse % p * q + second
      < (first + p - second % p) * inverse % p * q + q := Nat.add_lt_add_left small _
    _ = ((first + p - second % p) * inverse % p + 1) * q := (Nat.succ_mul _ _).symm
    _ ≤ p * q := Nat.mul_le_mul_right q below

/-- The numbers of the key fit together, and its factors are two prime numbers. -/
structure MadeOfPrimes (key : PrivateKey) : Prop where
  /-- The numbers fit together. -/
  consistent : key.isConsistent = true
  /-- The first factor is a prime number. -/
  p : key.p.Prime
  /-- The second factor is a prime number. -/
  q : key.q.Prime
  /-- The factors are not the same. -/
  apart : key.p ≠ key.q

namespace MadeOfPrimes

variable (made : key.MadeOfPrimes)
include made

theorem product : key.p * key.q = key.modulus := product_of_isConsistent made.consistent

theorem positive : 1 ≤ key.exponent * key.privateExponent := by
  have consistent := made.consistent
  simp only [isConsistent, Bool.and_eq_true, decide_eq_true_eq] at consistent
  exact consistent.1.1.2

/-- Both factors are odd, and leave one of the product of the exponents. -/
theorem leaves : (key.p ≠ 2 ∧ (key.exponent * key.privateExponent - 1) % (key.p - 1) = 0) ∧
    key.q ≠ 2 ∧ (key.exponent * key.privateExponent - 1) % (key.q - 1) = 0 := by
  have odd := PublicKey.modulus_odd_of_isValid (isValid_of_isConsistent made.consistent)
  have consistent := made.consistent
  simp only [isConsistent, Bool.and_eq_true, beq_iff_eq] at consistent
  rw [← made.product] at odd
  refine ⟨⟨?_, consistent.1.2⟩, ?_, consistent.2⟩ <;>
  · intro two
    rw [two] at odd
    omega

/-- Numbers below the modulus that agree modulo both factors are the same. -/
theorem eq_of_modEq {m n : Nat} (first : m ≡ n [MOD key.p]) (second : m ≡ n [MOD key.q])
    (smallM : m < key.modulus) (smallN : n < key.modulus) : m = n := by
  have coprime : key.p.Coprime key.q := (Nat.coprime_primes made.p made.q).mpr made.apart
  have both := (Nat.modEq_and_modEq_iff_modEq_mul coprime).mp ⟨first, second⟩
  rw [made.product] at both
  exact both.eq_of_lt_of_lt smallM smallN

/-- The plain power with the private exponent undoes the power with the public one. -/
theorem power_eq {raised n : Nat} (below : n < key.modulus)
    (power : raised ≡ n ^ key.exponent [MOD key.modulus]) :
    Modular.power key.modulus raised key.privateExponent = n := by
  have undone {prime : Nat} (isPrime : prime.Prime)
      (leaves : (key.exponent * key.privateExponent - 1) % (prime - 1) = 0)
      (divides : prime ∣ key.modulus) :
      Modular.power key.modulus raised key.privateExponent ≡ n [MOD prime] := by
    calc Modular.power key.modulus raised key.privateExponent
        = raised ^ key.privateExponent % key.modulus := Modular.power_eq _ _ _
      _ ≡ raised ^ key.privateExponent [MOD prime] := (Nat.mod_modEq _ _).of_dvd divides
      _ ≡ (n ^ key.exponent) ^ key.privateExponent [MOD prime] := (power.of_dvd divides).pow _
      _ = n ^ (key.exponent * key.privateExponent) := (pow_mul _ _ _).symm
      _ ≡ n [MOD prime] := pow_modEq_self isPrime made.positive (Nat.dvd_of_mod_eq_zero leaves) n
  have ⟨⟨_, leavesP⟩, _, leavesQ⟩ := made.leaves
  refine made.eq_of_modEq (undone made.p leavesP (Dvd.intro _ made.product))
    (undone made.q leavesQ (Dvd.intro_left _ made.product)) ?_ below
  rw [Modular.power_eq]
  exact Nat.mod_lt _ (by omega)

/-- The power with the private exponent undoes the power with the public one, whichever way it is
computed.  Without an inverse of the second factor, the plain power is taken. -/
theorem lower_eq {raised n : Nat} (below : n < key.modulus)
    (power : raised ≡ n ^ key.exponent [MOD key.modulus]) : key.lower raised = n := by
  have undone {prime : Nat} (isPrime : prime.Prime) (odd : prime ≠ 2)
      (leaves : (key.exponent * key.privateExponent - 1) % (prime - 1) = 0)
      (divides : prime ∣ key.modulus) :
      Modular.power prime raised (key.privateExponent % (prime - 1)) ≡ n [MOD prime] := by
    rw [Modular.power_eq]
    exact ((Nat.mod_modEq _ _).trans ((power.of_dvd divides).pow _)).trans
      (pow_pow_mod_modEq isPrime odd made.positive leaves n)
  have ⟨⟨oddP, leavesP⟩, oddQ, leavesQ⟩ := made.leaves
  have first := undone made.p oddP leavesP (Dvd.intro _ made.product)
  have second := undone made.q oddQ leavesQ (Dvd.intro_left _ made.product)
  rw [lower]
  split
  next => exact made.power_eq below power
  next inverse found =>
    have small : Modular.power key.q raised (key.privateExponent % (key.q - 1)) < key.q := by
      rw [Modular.power_eq]
      exact Nat.mod_lt _ made.q.pos
    have modP := recombined_modEq made.p.pos (Modular.inverse?_sound made.p.pos found)
    refine made.eq_of_modEq ((modP _ _).trans first)
      (Nat.mul_modulus_add_modEq_iff.mpr second) ?_ below
    rw [← made.product]
    exact recombined_lt made.p.pos small

/-- **A key made of two prime numbers inverts.** -/
theorem inverts : key.Inverts := by
  intro n below
  refine made.lower_eq below ?_
  rw [PublicKey.raise_eq]
  exact Nat.mod_modEq _ _

end MadeOfPrimes

end PrivateKey

end RemoteSigner.Rsa
