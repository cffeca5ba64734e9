import RemoteSigner.Proofs.Der.Elements
import RemoteSigner.Proofs.Rsa.Oaep
import RemoteSigner.Proofs.Rsa.Signatures

/-!
# The salt is found again in a signature

What is signed under a salt shows the salt to everyone who knows the public key.  The bits that are
cleared do not matter for that: they lie in front of the one that ends the zeros, so they are clear
in what was masked, and clearing them goes through a mask.

## Main results

* `Pss.decode?_encode`: the salt in what is signed
* `Pss.exists_sign`, `Pss.sign_of_short`: a signature shows its salt, and there is none without room
-/

namespace RemoteSigner.Rsa.Pss

variable {hash : HashAlgorithm} {digest salt : Bytes} {bits : Nat}

/-! ## Unused bits -/

theorem length_clearUnused (bits : Nat) (octets : Bytes) :
    (clearUnused bits octets).length = octets.length := by
  cases octets <;> rfl

theorem toNat_ofNat_mod (b : UInt8) (n : Nat) :
    (UInt8.ofNat (b.toNat % n)).toNat = b.toNat % n := by
  rw [UInt8.toNat_ofNat']
  exact Nat.mod_eq_of_lt (Nat.lt_of_le_of_lt (Nat.mod_le _ _) b.toNat_lt)

theorem clearUnused_clearUnused (bits : Nat) (octets : Bytes) :
    clearUnused bits (clearUnused bits octets) = clearUnused bits octets := by
  cases octets with
  | nil => rfl
  | cons b rest => rw [clearUnused, clearUnused, toNat_ofNat_mod, Nat.mod_mod]

/-- Bits that are cleared afterwards may be cleared before as well. -/
theorem clearUnused_xor (bits : Nat) (left right : Bytes) :
    clearUnused bits (Bytes.xor (clearUnused bits left) right) =
      clearUnused bits (Bytes.xor left right) := by
  rcases left with _ | ⟨b, left⟩
  · rfl
  · rcases right with _ | ⟨c, right⟩
    · rfl
    · simp only [clearUnused, Bytes.xor, List.zipWith_cons_cons, UInt8.toNat_xor, toNat_ofNat_mod,
        Nat.one_shiftLeft, Nat.xor_mod_two_pow, Nat.mod_mod]

theorem clearUnused_masked (bits : Nat) (seed octets : Bytes) :
    clearUnused bits (masked hash seed (clearUnused bits octets)) =
      clearUnused bits (masked hash seed octets) := by
  rw [masked, length_clearUnused, clearUnused_xor]
  rfl

/-! ## What is signed -/

/-- The salt begins after the first octet that is not zero. -/
theorem dropWhile_content (hash : HashAlgorithm) (salt : Bytes) (bits : Nat) :
    (content hash salt bits).dropWhile (· == 0) = 0x01 :: salt := by
  rw [content, List.dropWhile_append_of_pos (by simp)]
  rfl

/-- No more than seven bits are unused, so the one that ends the zeros stays. -/
theorem clearUnused_content (hash : HashAlgorithm) (salt : Bytes) (bits : Nat) :
    clearUnused bits (content hash salt bits) = content hash salt bits := by
  rw [content]
  rcases octetsFor bits - salt.length - hash.size - 2 with _ | zeros
  · have used : 1 < 1 <<< (8 - (8 * octetsFor bits - bits)) := by
      rw [Nat.one_shiftLeft]
      apply Nat.one_lt_two_pow
      unfold octetsFor
      omega
    have one : UInt8.ofNat (UInt8.toNat 0x01 % 1 <<< (8 - (8 * octetsFor bits - bits))) = 0x01 := by
      rw [show UInt8.toNat 0x01 = 1 from rfl, Nat.mod_eq_of_lt used]
      rfl
    rw [List.replicate_zero, List.nil_append, clearUnused, one]
  · rw [List.replicate_succ, List.cons_append, clearUnused]
    simp

/-- What is signed fills its octets, and the salt is found in it again.  The mask comes off, and the
bits that were cleared under it are clear again. -/
theorem decode?_encode (right : digest.length = hash.size)
    (fits : hash.size + salt.length + 2 ≤ octetsFor bits) {encoded : Bytes}
    (ok : encode hash digest salt bits = .ok encoded) :
    encoded.length = octetsFor bits ∧ decode? hash digest encoded bits = some salt := by
  let seed := salted hash digest salt
  let block := clearUnused bits (masked hash seed (content hash salt bits))
  have seedLength : seed.length = hash.size := HashAlgorithm.length_digest _ _
  have blockLength : block.length = octetsFor bits - hash.size - 1 := by
    rw [length_clearUnused, length_masked, length_content fits]
  obtain rfl : block ++ seed ++ [0xBC] = encoded :=
    Except.ok.inj ((encode_eq_ok right fits).symm.trans ok)
  have whole : (block ++ seed ++ [0xBC]).length = octetsFor bits := by
    rw [List.length_append, List.length_append, blockLength, seedLength, List.length_singleton]
    omega
  have front : (block ++ seed ++ [0xBC]).take (octetsFor bits - hash.size - 1) = block := by
    rw [List.append_assoc]
    exact List.take_left' blockLength
  have behind : ((block ++ seed ++ [0xBC]).drop (octetsFor bits - hash.size - 1)).take hash.size =
      seed := by
    rw [List.append_assoc, List.drop_left' blockLength]
    exact List.take_left' seedLength
  have unmasked : clearUnused bits (masked hash seed block) = content hash salt bits := by
    rw [clearUnused_masked, masked_masked, clearUnused_content]
  have cleared : clearUnused bits block = block := clearUnused_clearUnused bits _
  refine ⟨whole, ?_⟩
  have room : hash.size + 2 ≤ octetsFor bits := by omega
  simp only [decode?, whole, front, behind, unmasked, cleared, dropWhile_content,
    List.getLast?_concat, room, guard, and_self, if_true, seed]
  rfl

/-! ## Signatures -/

variable {key : PrivateKey}

/-- A signature under a salt that fits shows the salt. -/
theorem exists_sign (positive : 0 < key.modulus) (inverts : key.Inverts)
    (right : digest.length = hash.size)
    (fits : hash.size + salt.length + 2 ≤ octetsFor (key.bits - 1)) :
    ∃ signature, sign key hash digest salt = .ok signature ∧
      saltOf? key.toPublicKey hash digest signature = some salt := by
  rcases encode_eq hash digest salt (key.bits - 1) with
    ⟨-, -, encoded, ok, below⟩ | ⟨unfit, -⟩
  · have small := Nat.lt_of_lt_of_le below (PublicKey.two_pow_le_modulus positive)
    obtain ⟨signature, applied, reduced, raised⟩ := PrivateKey.exists_applyOctets inverts small
    obtain ⟨whole, decoded⟩ := decode?_encode right fits ok
    have long := (PrivateKey.of_applyOctets applied).2
    have narrow : Bytes.widthOf (Bytes.toNatural encoded) ≤ octetsFor (key.bits - 1) := by
      rw [← whole]
      exact Bytes.widthOf_le (Bytes.toNatural_lt encoded)
    refine ⟨signature, bind_eq_ok_iff.mpr ⟨encoded, ok, applied⟩, ?_⟩
    simp only [saltOf?, long, reduced, raised, narrow, Bytes.ofNatural_toNatural whole, guard,
      and_self, if_true]
    exact decoded
  · exact absurd ⟨right, fits⟩ unfit

/-- A salt that does not fit is not signed with. -/
theorem sign_of_short (right : digest.length = hash.size)
    (short : octetsFor (key.bits - 1) < hash.size + salt.length + 2) :
    sign key hash digest salt = .error .internal := by
  have refused : encode hash digest salt (key.bits - 1) = .error .internal := by
    rw [encode, if_neg (not_not.mpr right), if_pos short]
  rw [sign, refused]
  rfl

end RemoteSigner.Rsa.Pss
