import RemoteSigner.Keys.PrivateKey
import RemoteSigner.Proofs.Keys.PublicKey
import RemoteSigner.Proofs.Rsa.Key

/-!
# Private keys and their public keys

Every RSA key whose numbers fit together can be stored in a section of a file, however large it is.
The public key of a private key in a section is taken from another program unless it is an RSA key
with a modulus of more than 4096 bits.

## Main definitions

* `Rsa.PrivateKey.encode`: the numbers of a key
* `PrivateKey.isWide`: whether the modulus of a key has more than 4096 bits

## Main results

* `Rsa.PrivateKey.decode?_encode`: keys whose numbers fit together are read
* `PrivateKey.decode_publicKey`: what the public key of a key in a section is read as
-/

namespace RemoteSigner

open Der

namespace Rsa.PrivateKey

variable {key : PrivateKey}

/-! ## RSA keys -/

/-- The octets of the numbers; the last three could be computed from the others. -/
def encode (key : PrivateKey) : Bytes :=
  encodeSequence
    [encodeNatural 0, encodeNatural key.modulus, encodeNatural key.exponent,
     encodeNatural key.privateExponent, encodeNatural key.p, encodeNatural key.q,
     encodeNatural (key.privateExponent % (key.p - 1)),
     encodeNatural (key.privateExponent % (key.q - 1)),
     encodeNatural ((Modular.inverse? key.p key.q).getD 0)]

theorem read_encode (short : key.encode.length < maxContents) : read.all key.encode = some key := by
  have parts := short_parts short
  simp only [List.forall_mem_cons] at parts
  obtain ⟨version, modulus, exponent, privateExponent, p, q, first, second, inverse, -⟩ := parts
  refine (reads_within short (Reads.all ?_)).all
  refine (reads_natural version).bind (.guard rfl ?_)
  refine (reads_natural modulus).bind ((reads_natural exponent).bind ?_)
  refine (reads_natural privateExponent).bind ((reads_natural p).bind ((reads_natural q).bind ?_))
  refine (reads_natural first).bind ((reads_natural second).bind ?_)
  exact (reads_natural inverse).bind (.pure key)

/-- **A key whose numbers fit together is read**, whatever the size of its modulus. -/
theorem decode?_encode (consistent : key.isConsistent = true)
    (short : key.encode.length < maxContents) : decode? key.encode = some key := by
  simp [decode?, read_encode short, consistent]

theorem decode?_eq_some_iff {bytes : Bytes} :
    decode? bytes = some key ↔ read.all bytes = some key ∧ key.isConsistent = true := by
  rw [decode?, Option.bind_eq_bind, Option.bind_eq_some_iff]
  constructor
  · rintro ⟨found, numbers, checked⟩
    by_cases consistent : found.isConsistent = true
    · simp only [consistent] at checked
      obtain rfl := Option.some.inj checked
      exact ⟨numbers, consistent⟩
    · simp [consistent] at checked
  · rintro ⟨numbers, consistent⟩
    exact ⟨key, numbers, by simp [consistent]⟩

/-- The factors stand behind the modulus, and not both of them can be long, so the modulus has at most
half of the octets. -/
theorem modulus_lt_of_decode? {bytes : Bytes} (found : decode? bytes = some key) :
    key.modulus < 256 ^ (maxContents / 2) := by
  obtain ⟨numbers, consistent⟩ := decode?_eq_some_iff.mp found
  have product := product_of_isConsistent consistent
  obtain ⟨contents, tagged, parts⟩ :=
    Reader.within_eq_some_iff.mp (Reader.all_eq_some_iff.mp numbers)
  obtain ⟨-, short, -⟩ := readTagged_eq_some_iff.mp tagged
  simp only [Reader.all_eq_some_iff, Reader.bind_eq_some_iff, Reader.guard_eq_some_iff,
    Reader.pure_eq_some_iff] at parts
  obtain ⟨version, _, version_read, _, _, ⟨-, rfl⟩, modulus, _, modulus_read, exponent, _,
    exponent_read, privateExponent, _, privateExponent_read, p, _, p_read, q, _, q_read, -, -, -,
    -, -, -, -, -, -, rfl, -⟩ := parts
  obtain ⟨_, -, _⟩ := readNatural_lt version_read
  obtain ⟨width, modulus_lt, _⟩ := readNatural_lt modulus_read
  obtain ⟨_, -, _⟩ := readNatural_lt exponent_read
  obtain ⟨_, -, _⟩ := readNatural_lt privateExponent_read
  obtain ⟨pWidth, p_lt, _⟩ := readNatural_lt p_read
  obtain ⟨qWidth, q_lt, _⟩ := readNatural_lt q_read
  have together : width + (pWidth + qWidth) < maxContents := by omega
  by_cases narrow : width ≤ maxContents / 2
  · exact Nat.lt_of_lt_of_le modulus_lt (Nat.pow_le_pow_right (by decide) narrow)
  · calc modulus = p * q := product.symm
      _ < 256 ^ pWidth * 256 ^ qWidth := Nat.mul_lt_mul'' p_lt q_lt
      _ = 256 ^ (pWidth + qWidth) := (Nat.pow_add ..).symm
      _ ≤ 256 ^ (maxContents / 2) := Nat.pow_le_pow_right (by decide) (by omega)

end Rsa.PrivateKey

/-! ## Keys in sections -/

namespace PrivateKey

variable {s : Pem.Section} {key : PrivateKey}

/-- Whether the modulus of a key has more than 4096 bits. -/
def isWide : PrivateKey → Bool
  | rsa key => decide (Rsa.PublicKey.maxBits < key.bits)
  | ecdsa .. => false

theorem key?_ne_rsa {c : Curve} {info : Curve.SecretInfo} {key : Rsa.PrivateKey} :
    info.key? c ≠ some (.rsa key) := by
  intro found
  obtain ⟨⟨secret, point⟩, -, found⟩ := Option.bind_eq_some_iff.mp found
  obtain ⟨_, -, found⟩ := Option.bind_eq_some_iff.mp found
  cases found

theorem onCurve?_ne_rsa {c : Curve} {info : PrivateKeyInfo} {key : Rsa.PrivateKey} :
    info.onCurve? c ≠ some (.rsa key) := by
  intro found
  obtain ⟨_, -, found⟩ := Option.bind_eq_some_iff.mp found
  obtain ⟨secret, -, found⟩ := Option.bind_eq_some_iff.mp found
  exact key?_ne_rsa found

/-- However an RSA key is stored, its numbers are read in the same way: it stands by itself, or
beside the algorithm of RSA keys in octets of the same kind. -/
theorem exists_decode?_of_ofSection? {key : Rsa.PrivateKey}
    (found : ofSection? s = some (.rsa key)) :
    ∃ bytes, Rsa.PrivateKey.decode? bytes = some key := by
  rw [ofSection?] at found
  split at found
  · obtain ⟨key', numbers, same⟩ := Option.map_eq_some_iff.mp found
    cases same
    exact ⟨_, numbers⟩
  · obtain ⟨info, -, onCurve⟩ := Option.bind_eq_some_iff.mp found
    rcases Option.or_eq_some_iff.mp onCurve with onP256 | ⟨-, onP384⟩
    · exact absurd onP256 key?_ne_rsa
    · exact absurd onP384 key?_ne_rsa
  · obtain ⟨info, -, found⟩ := Option.bind_eq_some_iff.mp found
    rcases Option.or_eq_some_iff.mp found with found | ⟨-, onP384⟩
    · rcases Option.or_eq_some_iff.mp found with found | ⟨-, onP256⟩
      · split_ifs at found
        obtain ⟨key', numbers, same⟩ := Option.map_eq_some_iff.mp found
        cases same
        exact ⟨_, numbers⟩
      · exact absurd onP256 onCurve?_ne_rsa
    · exact absurd onP384 onCurve?_ne_rsa
  · cases found

/-- The public key of a key in a section can be written.  Half of the room is left for what stands
beside the modulus. -/
theorem length_publicKey_lt (found : ofSection? s = some key) :
    key.publicKey.encode.length < maxContents := by
  apply PublicKey.length_encode_lt
  cases key with
  | rsa key =>
    obtain ⟨bytes, numbers⟩ := exists_decode?_of_ofSection? found
    have large := Rsa.PrivateKey.modulus_lt_of_decode? numbers
    have valid : key.isValid = true := Rsa.PrivateKey.isValid_of_isConsistent
      (Rsa.PrivateKey.decode?_eq_some_iff.mp numbers).2
    have room : maxContents / 2 + 32 + 64 < maxContents := by decide
    have length := Rsa.PublicKey.length_encode_le valid large (by decide) (by omega)
    exact Nat.lt_of_le_of_lt (Nat.add_le_add_right length 64) room
  | ecdsa c secret p =>
    have length : p.encode.length = 2 * c.size + 1 := p.length_encode
    have size : 2 * c.size + 65 < maxContents := by cases c <;> decide
    rw [publicKey, PublicKey.octets]
    omega

/-- **The public key of a key in a section is read back**, unless the modulus of the key has more
than 4096 bits. -/
theorem decode_publicKey (found : ofSection? s = some key) :
    PublicKey.decode key.publicKey.encode =
      if key.isWide then .error (.unsupported rsaIdentifier) else .ok key.publicKey := by
  rw [PublicKey.decode_encode (length_publicKey_lt found)]
  cases key with
  | rsa key =>
    obtain ⟨bytes, numbers⟩ := exists_decode?_of_ofSection? found
    have valid : key.isValid = true := Rsa.PrivateKey.isValid_of_isConsistent
      (Rsa.PrivateKey.decode?_eq_some_iff.mp numbers).2
    by_cases wide : Rsa.PublicKey.maxBits < key.bits
    · simp [publicKey, isWide, PublicKey.isTaken, wide, Nat.not_le.mpr wide, PublicKey.algorithm]
    · simp [publicKey, isWide, PublicKey.isTaken, wide, Nat.le_of_not_lt wide, valid]
  | ecdsa c secret p => rfl

end PrivateKey

end RemoteSigner
