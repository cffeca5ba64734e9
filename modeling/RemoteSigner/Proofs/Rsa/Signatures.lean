import RemoteSigner.Proofs.Rsa.Key
import RemoteSigner.Rsa.Pkcs1
import RemoteSigner.Rsa.Pss

/-!
# Signatures of an RSA key

Every signature is as long as the modulus.  The number that is signed under a salt has one bit less
than the modulus, so whether there is a signature depends on the lengths of the digest and the salt
and not on their octets.

## Main definitions

* `Pss.content`: what is masked

## Main results

* `Pkcs1.of_sign`, `Pss.of_sign`: how long a signature is
* `Pss.exists_sign_iff`: when there is a signature under a salt
-/

namespace RemoteSigner.Rsa

variable {key : PrivateKey} {hash : HashAlgorithm}

theorem Pkcs1.of_signRaw {content signature : Bytes}
    (signed : signRaw key content = .ok signature) :
    0 < key.modulus ∧ signature.length = key.size := by
  obtain ⟨padded, -, applied⟩ := bind_eq_ok_iff.mp signed
  exact PrivateKey.of_applyOctets applied

theorem Pkcs1.of_sign {digest signature : Bytes} (signed : sign key hash digest = .ok signature) :
    0 < key.modulus ∧ signature.length = key.size := by
  rw [sign] at signed
  split at signed
  · cases signed
  · exact of_signRaw signed

namespace Pss

variable {digest salt encoded : Bytes} {bits : Nat}

/-- Octets in which the unused bits are clear spell a number of so many bits. -/
theorem toNatural_clearUnused_lt {b : UInt8} {rest after : Bytes}
    (whole : (b :: rest ++ after).length = octetsFor bits) :
    Bytes.toNatural (clearUnused bits (b :: rest) ++ after) < 2 ^ bits := by
  let used := 8 - (8 * octetsFor bits - bits)
  have split : used + 8 * (rest ++ after).length = bits := by
    simp only [List.cons_append, List.length_cons] at whole
    simp only [used, ← whole]
    unfold octetsFor at whole
    omega
  have first : (UInt8.ofNat (b.toNat % (1 <<< used))).toNat < 2 ^ used := by
    rw [Nat.one_shiftLeft]
    calc (UInt8.ofNat (b.toNat % 2 ^ used)).toNat
        = b.toNat % 2 ^ used % 2 ^ 8 := UInt8.toNat_ofNat'
      _ ≤ b.toNat % 2 ^ used := Nat.mod_le _ _
      _ < 2 ^ used := Nat.mod_lt _ (Nat.two_pow_pos used)
  have spelled := Bytes.toNatural_cons_lt first (rest ++ after)
  rw [split] at spelled
  exact spelled

/-- What is masked in so many bits: zeros, a one and the salt. -/
def content (hash : HashAlgorithm) (salt : Bytes) (bits : Nat) : Bytes :=
  List.replicate (octetsFor bits - salt.length - hash.size - 2) 0 ++ 0x01 :: salt

theorem length_content (fits : hash.size + salt.length + 2 ≤ octetsFor bits) :
    (content hash salt bits).length = octetsFor bits - hash.size - 1 := by
  rw [content, List.length_append, List.length_replicate, List.length_cons]
  omega

theorem encode_eq_ok (right : digest.length = hash.size)
    (fits : hash.size + salt.length + 2 ≤ octetsFor bits) :
    encode hash digest salt bits =
      .ok (clearUnused bits (masked hash (salted hash digest salt) (content hash salt bits)) ++
        salted hash digest salt ++ [0xBC]) := by
  rw [encode, if_neg (not_not.mpr right), if_neg (Nat.not_lt.mpr fits)]
  rfl

/-- There is something to sign exactly if the digest is as long as it should be and the salt fits,
and it has no more bits than it may have. -/
theorem encode_eq (hash : HashAlgorithm) (digest salt : Bytes) (bits : Nat) :
    (digest.length = hash.size ∧ hash.size + salt.length + 2 ≤ octetsFor bits ∧
      ∃ encoded, encode hash digest salt bits = .ok encoded ∧ Bytes.toNatural encoded < 2 ^ bits) ∨
    (¬ (digest.length = hash.size ∧ hash.size + salt.length + 2 ≤ octetsFor bits) ∧
      ∃ error, encode hash digest salt bits = .error error) := by
  by_cases other : digest.length ≠ hash.size
  · exact .inr ⟨fun both => other both.1, _, if_pos other⟩
  · by_cases short : octetsFor bits < hash.size + salt.length + 2
    · exact .inr ⟨fun both => absurd short (Nat.not_lt.mpr both.2), _,
        (if_neg other).trans (if_pos short)⟩
    · have right := not_not.mp other
      have room := Nat.not_lt.mp short
      refine .inl ⟨right, room, _, encode_eq_ok right room, ?_⟩
      generalize filled : masked hash (salted hash digest salt) (content hash salt bits) = block
      have blockLength : block.length = octetsFor bits - hash.size - 1 := by
        rw [← filled, length_masked, length_content room]
      obtain ⟨b, rest, split⟩ := List.exists_cons_of_length_pos (l := block) (by omega)
      rw [split, List.append_assoc]
      apply toNatural_clearUnused_lt
      rw [← split, List.length_append, List.length_append, List.length_singleton, blockLength,
        salted, HashAlgorithm.length_digest]
      omega

theorem of_sign {signature : Bytes} (signed : sign key hash digest salt = .ok signature) :
    0 < key.modulus ∧ signature.length = key.size := by
  obtain ⟨encoded, -, applied⟩ := bind_eq_ok_iff.mp signed
  exact PrivateKey.of_applyOctets applied

/-- Where the private operation undoes the public one, a digest can be signed exactly if it is as
long as it should be and the salt fits. -/
theorem exists_sign_iff (positive : 0 < key.modulus) (inverts : key.Inverts) (hash : HashAlgorithm)
    (digest salt : Bytes) : (∃ signature, sign key hash digest salt = .ok signature) ↔
      digest.length = hash.size ∧ hash.size + salt.length + 2 ≤ octetsFor (key.bits - 1) := by
  have small := PublicKey.two_pow_le_modulus positive
  rcases encode_eq hash digest salt (key.bits - 1) with
    ⟨right, fits, encoded, ok, below⟩ | ⟨unfit, error, refused⟩
  · obtain ⟨signature, applied, -⟩ :=
      PrivateKey.exists_applyOctets inverts (Nat.lt_of_lt_of_le below small)
    exact ⟨fun _ => ⟨right, fits⟩, fun _ => ⟨signature, bind_eq_ok_iff.mpr ⟨encoded, ok, applied⟩⟩⟩
  · refine ⟨?_, fun both => absurd both unfit⟩
    rintro ⟨signature, signed⟩
    obtain ⟨encoded, ok, -⟩ := bind_eq_ok_iff.mp signed
    rw [refused] at ok
    cases ok

end Pss

end RemoteSigner.Rsa
