import RemoteSigner.Digest.Algorithm

/-!
# Masks

A mask of any length is made of the digests of a seed with a counter behind it.

## Main definitions

* `masked`: octets under the mask of a seed

## Main results

* `length_mask`, `length_masked`: a mask has the length that is asked for
-/

namespace RemoteSigner.Rsa

/-- The digests of a seed with so many counters, the first of which is `counter`. -/
def maskBlocks (hash : HashAlgorithm) (seed : Bytes) : Nat → Nat → Bytes
  | 0, _ => []
  | n + 1, counter =>
      hash.digest (seed ++ Bytes.ofNatural 4 counter) ++ maskBlocks hash seed n (counter + 1)

/-- The mask of a seed. -/
def mask (hash : HashAlgorithm) (seed : Bytes) (length : Nat) : Bytes :=
  (maskBlocks hash seed ((length + hash.size - 1) / hash.size) 0).take length

/-- The octets under the mask of a seed. -/
def masked (hash : HashAlgorithm) (seed bytes : Bytes) : Bytes :=
  Bytes.xor bytes (mask hash seed bytes.length)

theorem length_maskBlocks (hash : HashAlgorithm) (seed : Bytes) (n counter : Nat) :
    (maskBlocks hash seed n counter).length = n * hash.size := by
  induction n generalizing counter with
  | zero => simp [maskBlocks]
  | succ n ih => simp [maskBlocks, ih, Nat.succ_mul]; omega

theorem length_mask (hash : HashAlgorithm) (seed : Bytes) (length : Nat) :
    (mask hash seed length).length = length := by
  have positive : 0 < hash.size := by cases hash <;> decide
  have enough : length ≤ (length + hash.size - 1) / hash.size * hash.size := by
    have := Nat.div_add_mod (length + hash.size - 1) hash.size
    have := Nat.mod_lt (length + hash.size - 1) positive
    rw [Nat.mul_comm]
    omega
  simp [mask, length_maskBlocks]
  omega

theorem length_masked (hash : HashAlgorithm) (seed bytes : Bytes) :
    (masked hash seed bytes).length = bytes.length := by
  simp [masked, Bytes.xor, length_mask]

end RemoteSigner.Rsa
