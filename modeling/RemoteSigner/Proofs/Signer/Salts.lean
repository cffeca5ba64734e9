import RemoteSigner.Proofs.Rsa.Salts
import RemoteSigner.Proofs.Signer.Encryption
import RemoteSigner.Proofs.Signer.Signatures

/-!
# Limits of salts

A salt shares what is signed with a hash and two more octets.  What is signed has one bit less than
the modulus, so it has one octet less than a modulus of one bit more than whole octets.  The limit
that is put on salts counts the octets of the modulus: it is the right one for all moduli but these,
and for these it is one octet too long.  A salt of that length passes the limit and then does not
fit; the longest salt of such a key is one of them.

## Main definitions

* `Rsa.Pss.room`: how long a salt may be
* `SaltLength.Fixed`: the salt lengths that are not left to the key
* `Salted`: signatures that show a salt of a length

## Main results

* `maxSaltLength_eq`: the limit that is put on salts
* `SoftwareKey.sign_salts`: which salts are signed with
* `SoftwareKey.not_salted_auto`: a key that can not sign with its longest salt
-/

namespace RemoteSigner

/-- How long a salt may be beside a hash. -/
def Rsa.Pss.room (key : PublicKey) (hash : HashAlgorithm) : Nat :=
  octetsFor (key.bits - 1) - (hash.size + 2)

/-- How long the salt has to be, unless that is left to the key. -/
inductive SaltLength.Fixed (hash : HashAlgorithm) : SaltLength → Nat → Prop where
  | equalsHash : Fixed hash .equalsHash hash.size
  | bytes (n : UInt64) : Fixed hash (.bytes n) n.toNat

namespace Signer

/-- A result is a signature that shows a salt of so many octets. -/
def Salted (key : Rsa.PublicKey) (hash : HashAlgorithm) (digest : Bytes) (n : Nat)
    (result : Except Error Bytes) : Prop :=
  ∃ signature salt, result = .ok signature ∧ salt.length = n ∧
    Rsa.Pss.saltOf? key hash digest signature = some salt

variable {key : Rsa.PrivateKey} {hash : HashAlgorithm} {digest : Bytes} {length : SaltLength}

theorem saltLength_auto (key : Rsa.PublicKey) (hash : HashAlgorithm) :
    saltLength key hash .auto = maxSaltLength key hash := rfl

theorem saltLength_of_fixed (key : Rsa.PublicKey) {n : Nat} (fixed : length.Fixed hash n) :
    saltLength key hash length = n := by
  cases fixed <;> rfl

/-- The limit that is put on salts is the length of the longest one, but for moduli of one bit more
than whole octets.  The octets of the modulus and those of one bit less differ if one bit begins an
octet. -/
theorem maxSaltLength_eq (positive : 0 < key.modulus)
    (room : hash.size + 2 ≤ Rsa.Pss.octetsFor (key.bits - 1)) :
    maxSaltLength key.toPublicKey hash =
      Rsa.Pss.room key.toPublicKey hash + if key.bits % 8 = 1 then 1 else 0 := by
  have some : 0 < key.bits := by
    rw [Rsa.PublicKey.bits, if_neg positive.ne']
    exact Nat.succ_pos _
  unfold maxSaltLength Rsa.PublicKey.size Rsa.Pss.room Rsa.Pss.octetsFor at *
  split <;> omega

/-! ## What comes of a salt length -/

section

variable {m : Type → Type} [Monad m] (draw : Nat → m Bytes)

variable [LawfulMonad m]

/-- A salt that there is room for is signed with. -/
theorem signRsa_of_room (positive : 0 < key.modulus) (inverts : key.Inverts)
    (right : digest.length = hash.size)
    (room : hash.size + 2 ≤ Rsa.Pss.octetsFor (key.bits - 1)) {n : Nat}
    (wanted : saltLength key.toPublicKey hash length = n)
    (fits : n ≤ Rsa.Pss.room key.toPublicKey hash) :
    Yields (Salted key.toPublicKey hash digest n)
      (signRsa draw key digest (some (.pss hash length))) := by
  have short : n ≤ maxSaltLength key.toPublicKey hash := by
    rw [maxSaltLength_eq positive room]
    exact Nat.le_add_right_of_le fits
  rw [signRsa_of_le_limit draw (by rwa [wanted]), wanted]
  apply (drawn_yields draw n).map
  rintro salt rfl
  have beside : hash.size + salt.length + 2 ≤ Rsa.Pss.octetsFor (key.bits - 1) := by
    unfold Rsa.Pss.room at fits
    omega
  obtain ⟨signature, signed, shown⟩ := Rsa.Pss.exists_sign positive inverts right beside
  exact ⟨signature, salt, mapError_eq_ok_iff.mpr signed, rfl, shown⟩

/-- A salt that passes the limit although there is no room for it gives an internal error. -/
theorem signRsa_of_no_room (right : digest.length = hash.size) {n : Nat}
    (wanted : saltLength key.toPublicKey hash length = n)
    (short : n ≤ maxSaltLength key.toPublicKey hash)
    (unfit : Rsa.Pss.octetsFor (key.bits - 1) < hash.size + n + 2) :
    Yields (· = .error (.rsa .internal)) (signRsa draw key digest (some (.pss hash length))) := by
  rw [signRsa_of_le_limit draw (by rwa [wanted]), wanted]
  apply (drawn_yields draw n).map
  rintro salt rfl
  rw [Rsa.Pss.sign_of_short right unfit]
  rfl

/-- A modulus of one bit more than whole octets has no room for a salt that is as long as the limit.
-/
theorem signRsa_at_limit (positive : 0 < key.modulus) (right : digest.length = hash.size)
    (room : hash.size + 2 ≤ Rsa.Pss.octetsFor (key.bits - 1)) (extra : key.bits % 8 = 1)
    (wanted : saltLength key.toPublicKey hash length = Rsa.Pss.room key.toPublicKey hash + 1) :
    Yields (· = .error (.rsa .internal)) (signRsa draw key digest (some (.pss hash length))) := by
  have limit := maxSaltLength_eq positive room
  rw [if_pos extra] at limit
  apply signRsa_of_no_room draw right wanted (Nat.le_of_eq limit.symm)
  unfold Rsa.Pss.room
  omega

end

namespace SoftwareKey

/-! ## Salts of a key in memory -/

/-- **Which salts are signed with.**  Unless the modulus has one bit more than whole octets, the
longest salt is one of all that there is room for, and every other length is signed with or refused
with that limit.  With one bit more, the limit is one octet too long: the longest salt and all
others of that length give an internal error. -/
theorem sign_salts {m : Type → Type} [Monad m] [LawfulMonad m] (draw : Nat → m Bytes)
    {software : SoftwareKey} (holds : software.key = .rsa key) (positive : 0 < key.modulus)
    (inverts : key.Inverts) (right : digest.length = hash.size)
    (room : hash.size + 2 ≤ Rsa.Pss.octetsFor (key.bits - 1)) :
    let sign (length : SaltLength) := (software.provider draw).sign digest (some (.pss hash length))
    let longest := Rsa.Pss.room key.toPublicKey hash
    let limit := if key.bits % 8 = 1 then longest + 1 else longest
    (∀ salt, (∃ signature, Rsa.Pss.sign key hash digest salt = .ok signature) ↔
      salt.length ≤ longest) ∧
    (key.bits % 8 ≠ 1 → Yields (Salted key.toPublicKey hash digest longest) (sign .auto)) ∧
    (key.bits % 8 = 1 → Yields (· = .error (.rsa .internal)) (sign .auto)) ∧
    ∀ length n, length.Fixed hash n →
      (n ≤ longest → Yields (Salted key.toPublicKey hash digest n) (sign length)) ∧
      (longest < n → n ≤ limit → Yields (· = .error (.rsa .internal)) (sign length)) ∧
      (limit < n → sign length = pure (.error (.saltLength n limit))) := by
  intro sign longest limit
  have signs (length : SaltLength) :
      sign length = signRsa draw key digest (some (.pss hash length)) :=
    provider_sign_rsa draw holds
  have limited : maxSaltLength key.toPublicKey hash = limit := by
    rw [maxSaltLength_eq positive room]
    simp only [limit, longest]
    split <;> rfl
  have auto : saltLength key.toPublicKey hash .auto = limit := (saltLength_auto _ _).trans limited
  refine ⟨?_, ?_, ?_, ?_⟩
  · intro salt
    rw [Rsa.Pss.exists_sign_iff positive inverts]
    simp only [longest]
    unfold Rsa.Pss.room
    omega
  · intro whole
    rw [signs]
    rw [show limit = longest from if_neg whole] at auto
    exact signRsa_of_room draw positive inverts right room auto (Nat.le_refl _)
  · intro extra
    rw [signs]
    rw [show limit = longest + 1 from if_pos extra] at auto
    exact signRsa_at_limit draw positive right room extra auto
  · intro length n fixed
    have wanted := saltLength_of_fixed key.toPublicKey fixed
    rw [signs]
    refine ⟨signRsa_of_room draw positive inverts right room wanted, ?_, ?_⟩
    · intro above within
      have extra : key.bits % 8 = 1 := by
        by_contra whole
        simp only [limit, if_neg whole] at within
        omega
      have same : n = longest + 1 := by
        simp only [limit, if_pos extra] at within
        omega
      exact signRsa_at_limit draw positive right room extra (wanted.trans same)
    · intro long
      rw [signRsa_of_limit_lt draw (by rwa [limited, wanted]), limited, wanted]

/-- A key of 609 bits, which is one more than 76 octets have, made of two Mersenne primes. -/
def overKey : Rsa.PrivateKey where
  modulus := mersenne 2 * mersenne 607
  exponent := 5
  privateExponent := (4 * (mersenne 607 - 1) + 1) / 5
  p := mersenne 2
  q := mersenne 607

theorem overKey_madeOfPrimes : overKey.MadeOfPrimes where
  consistent := by decide +kernel
  p := Nat.prime_three
  q := lucas_lehmer_sufficiency 607 (by decide) (by norm_num)
  apart := by decide +kernel

theorem overKey_modulus_pos : 0 < overKey.modulus := by decide +kernel

theorem overKey_bits : overKey.bits = 609 := by decide +kernel

/-- A key of 648 bits has a longest salt.  One of 609 bits has room for 42 octets, and refuses no
salt but those of more than 43. -/
theorem sign_salts_keys :
    let draw : Nat → Id Bytes := fun _ => []
    let digest := List.replicate 32 0
    let sign (key : Rsa.PrivateKey) (length : SaltLength) :=
      (((SoftwareKey.mk [] (.rsa key)).provider draw).sign digest (some (.pss .sha256 length))).run
    Salted mersenneKey.toPublicKey .sha256 digest 47 (sign mersenneKey .auto) ∧
      sign overKey .auto = .error (.rsa .internal) ∧
      Salted overKey.toPublicKey .sha256 digest 32 (sign overKey .equalsHash) ∧
      sign overKey (.bytes 43) = .error (.rsa .internal) ∧
      sign overKey (.bytes 44) = .error (.saltLength 44 43) := by
  intro draw digest sign
  have right : digest.length = HashAlgorithm.sha256.size := List.length_replicate
  have holds : (SoftwareKey.mk [] (.rsa mersenneKey)).key = .rsa mersenneKey := rfl
  have bits : mersenneKey.bits = 648 := by decide +kernel
  have longest : Rsa.Pss.room mersenneKey.toPublicKey .sha256 = 47 := by
    rw [Rsa.Pss.room, bits]
    rfl
  obtain ⟨-, auto, -, -⟩ := sign_salts draw holds (by decide +kernel)
    mersenneKey_madeOfPrimes.inverts right (by rw [bits]; decide)
  have holdsOver : (SoftwareKey.mk [] (.rsa overKey)).key = .rsa overKey := rfl
  have extra := overKey_bits
  have longestOver : Rsa.Pss.room overKey.toPublicKey .sha256 = 42 := by
    rw [Rsa.Pss.room, extra]
    rfl
  obtain ⟨-, -, autoOver, fixed⟩ := sign_salts draw holdsOver overKey_modulus_pos
    overKey_madeOfPrimes.inverts right (by rw [extra]; decide)
  rw [longest, bits] at auto
  rw [extra] at autoOver
  rw [longestOver, extra] at fixed
  refine ⟨(auto (by decide)).run, (autoOver rfl).run, ?_, ?_, ?_⟩
  · exact ((fixed .equalsHash 32 .equalsHash).1 (by decide)).run
  · exact ((fixed (.bytes 43) 43 (.bytes 43)).2.1 (by decide) (by decide)).run
  · exact (fixed (.bytes 44) 44 (.bytes 44)).2.2 (by decide)

/-- Not every key that has room for a salt can sign with its longest one. -/
theorem not_salted_auto : ¬ ∀ (draw : Nat → Id Bytes) (software : SoftwareKey)
    (key : Rsa.PrivateKey) (hash : HashAlgorithm) (digest : Bytes),
      software.key = .rsa key → key.MadeOfPrimes → digest.length = hash.size →
      hash.size + 2 ≤ Rsa.Pss.octetsFor (key.bits - 1) →
      Salted key.toPublicKey hash digest (Rsa.Pss.room key.toPublicKey hash)
        ((software.provider draw).sign digest (some (.pss hash .auto))).run := by
  intro all
  let draw : Nat → Id Bytes := fun _ => []
  let digest : Bytes := List.replicate 32 0
  have right : digest.length = HashAlgorithm.sha256.size := List.length_replicate
  have room : HashAlgorithm.sha256.size + 2 ≤ Rsa.Pss.octetsFor (overKey.bits - 1) := by
    rw [overKey_bits]
    decide
  have extra : overKey.bits % 8 = 1 := by rw [overKey_bits]
  have limit := maxSaltLength_eq overKey_modulus_pos room
  rw [if_pos extra, ← saltLength_auto] at limit
  have fails := (signRsa_at_limit draw overKey_modulus_pos right room extra limit).run
  have holds : (SoftwareKey.mk [] (.rsa overKey)).key = .rsa overKey := rfl
  obtain ⟨signature, salt, signed, -, -⟩ :=
    all draw ⟨[], .rsa overKey⟩ overKey .sha256 digest holds overKey_madeOfPrimes right room
  rw [provider_sign_rsa draw holds, fails] at signed
  cases signed

end SoftwareKey

end Signer

end RemoteSigner
