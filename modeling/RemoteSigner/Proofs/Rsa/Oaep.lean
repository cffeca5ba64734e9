import RemoteSigner.Proofs.Rsa.Key
import RemoteSigner.Rsa.Oaep

/-!
# What is encrypted can be decrypted

A mask is taken off by putting it on once more, whatever the hash function makes of the seed; this
is all that is used of the hash functions, apart from the length of a digest.  The octet in front of
everything keeps the number below the modulus, and the one in front of the message ends the zeros,
so that the message may begin with any octets.

## Main results

* `masked_masked`: masks come off
* `decode_encode`: a message under its masks, and back
* `decrypt_encrypt`, `encrypt_eq`: ciphertexts, and when there are any
-/

namespace RemoteSigner

theorem Bytes.xor_xor {left right : Bytes} (short : left.length ≤ right.length) :
    Bytes.xor (Bytes.xor left right) right = left := by
  apply List.ext_getElem
  · simp only [Bytes.xor, List.length_zipWith]
    omega
  · intro i _ _
    simp only [Bytes.xor, List.getElem_zipWith, UInt8.xor_assoc, UInt8.xor_self, UInt8.xor_zero]

namespace Rsa

/-- A mask comes off when it is put on once more. -/
theorem masked_masked (hash : HashAlgorithm) (seed octets : Bytes) :
    masked hash seed (masked hash seed octets) = octets := by
  have whole := length_masked hash seed octets
  rw [masked, whole]
  exact Bytes.xor_xor (Nat.le_of_eq (length_mask hash seed octets.length).symm)

namespace Oaep

variable {hash : HashAlgorithm} {seed message : Bytes} {size : Nat}

/-! ## A message under its masks -/

/-- What is masked for `size` octets: the message behind the hash of an empty label, zeros and a
one. -/
def content (hash : HashAlgorithm) (message : Bytes) (size : Nat) : Bytes :=
  hash.digest [] ++ List.replicate (size - message.length - overhead hash) 0 ++ 0x01 :: message

theorem length_content (fits : message.length + overhead hash ≤ size) :
    (content hash message size).length + hash.size + 1 = size := by
  simp only [content, List.length_append, List.length_cons, List.length_replicate,
    HashAlgorithm.length_digest]
  unfold overhead at fits ⊢
  omega

theorem take_content (hash : HashAlgorithm) (message : Bytes) (size : Nat) :
    (content hash message size).take hash.size = hash.digest [] := by
  rw [content, List.append_assoc]
  exact List.take_left' (HashAlgorithm.length_digest hash [])

/-- Behind the label the message begins after the first octet that is not zero. -/
theorem dropWhile_content (hash : HashAlgorithm) (message : Bytes) (size : Nat) :
    ((content hash message size).drop hash.size).dropWhile (· == 0) = 0x01 :: message := by
  rw [content, List.append_assoc, List.drop_left' (HashAlgorithm.length_digest hash []),
    List.dropWhile_append_of_pos (by simp)]
  rfl

/-- What is encrypted begins with a zero, and the message is found in it again.  The two masks come
off in the order opposite to the one in which they were put on. -/
theorem decode_encode (drawn : seed.length = hash.size)
    (fits : message.length + overhead hash ≤ size) :
    ∃ rest, encode hash seed message size = .ok (0x00 :: rest) ∧ rest.length + 1 = size ∧
      decode hash (0x00 :: rest) = .ok message := by
  let block := masked hash seed (content hash message size)
  let front := masked hash block seed
  have encoded : encode hash seed message size = .ok (0x00 :: (front ++ block)) :=
    if_neg (Nat.not_lt.mpr fits)
  have frontLength : front.length = hash.size := by rw [length_masked, drawn]
  have whole : (front ++ block).length + 1 = size := by
    have := length_content fits
    rw [List.length_append, frontLength, length_masked]
    omega
  have long : ¬ (0x00 :: (front ++ block)).length < overhead hash := by
    rw [List.length_cons, whole]
    omega
  have seedBack : masked hash block front = seed := masked_masked hash block seed
  have contentBack : masked hash seed block = content hash message size := masked_masked hash seed _
  refine ⟨front ++ block, encoded, whole, ?_⟩
  rw [decode, if_neg long]
  simp only [List.drop_left' frontLength, List.take_left' frontLength, seedBack, contentBack,
    take_content, dropWhile_content, ne_eq, not_true_eq_false, if_false]

/-! ## Ciphertexts -/

/-- A message is encrypted exactly if it fits. -/
theorem encrypt_eq (key : PublicKey) (message : Bytes) (drawn : seed.length = hash.size) :
    (message.length + overhead hash ≤ key.size ∧
      ∃ ciphertext, encrypt key hash seed message = .ok ciphertext) ∨
    (key.size < message.length + overhead hash ∧
      encrypt key hash seed message = .error .messageTooLong) := by
  rcases Nat.lt_or_ge key.size (message.length + overhead hash) with short | fits
  · have refused : encode hash seed message key.size = .error .messageTooLong := if_pos short
    refine .inr ⟨short, ?_⟩
    rw [encrypt, refused]
    rfl
  · obtain ⟨rest, encoded, -, -⟩ := decode_encode drawn fits
    refine .inl ⟨fits, Bytes.ofNatural key.size (key.raise (Bytes.toNatural (0x00 :: rest))), ?_⟩
    rw [encrypt, encoded]
    rfl

/-- What has been encrypted is decrypted to what it was.  The zero in front keeps the number below
the modulus. -/
theorem decrypt_encrypt {key : PrivateKey} (positive : 0 < key.modulus) (inverts : key.Inverts)
    (drawn : seed.length = hash.size) {ciphertext : Bytes}
    (encrypted : encrypt key.toPublicKey hash seed message = .ok ciphertext) :
    decrypt key hash ciphertext = .ok message := by
  have fits : message.length + overhead hash ≤ key.size := by
    rcases encrypt_eq key.toPublicKey message drawn with ⟨fits, -⟩ | ⟨-, refused⟩
    · exact fits
    · rw [refused] at encrypted
      cases encrypted
  obtain ⟨rest, encoded, whole, decoded⟩ := decode_encode drawn fits
  rw [encrypt, encoded] at encrypted
  have raised := Except.ok.inj encrypted
  have below : Bytes.toNatural (0x00 :: rest) < key.modulus := by
    have small : Bytes.toNatural rest < 256 ^ (key.size - 1) := by
      rw [← whole, Nat.add_sub_cancel]
      exact Bytes.toNatural_lt rest
    have zero : Bytes.toNatural (0x00 :: rest) = Bytes.toNatural rest := by
      simp [Bytes.toNatural]
    rw [zero]
    exact Nat.lt_of_lt_of_le small (PublicKey.le_modulus positive)
  have wholeOctets : (0x00 :: rest).length = key.size := whole
  have applied := PrivateKey.applyOctets_raise positive inverts wholeOctets below
  rw [raised] at applied
  have long : ciphertext.length = key.size := by
    rw [← raised]
    exact Bytes.length_ofNatural _ _
  rw [decrypt, if_neg (not_not.mpr long)]
  exact (bind_eq_ok_iff.mpr ⟨_, applied, decoded⟩)

end Oaep

end Rsa

end RemoteSigner
