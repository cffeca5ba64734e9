import RemoteSigner.Octets

/-!
# Hash functions that work on blocks

The message is filled up to whole blocks: one bit, zeros, and at the end the number of bits in the
message.  The blocks are absorbed one after the other into a state, and the digest is read off the
last state.

## Main definitions

* `BlockHash`: how blocks are absorbed
* `BlockHash.hash`: the digest of a message
-/

namespace RemoteSigner.Digest

/-- A hash function that works on blocks. -/
structure BlockHash (σ : Type) where
  /-- How many octets a block has. -/
  blockSize : Nat
  /-- How many octets the length of the message has. -/
  lengthSize : Nat
  /-- The first state. -/
  initial : σ
  /-- The state behind a block. -/
  absorb : σ → Bytes → σ
  /-- The digest. -/
  output : σ → Bytes

namespace BlockHash

variable {σ : Type} (h : BlockHash σ)

/-- How many zeros follow a message of `n` octets and the octet behind it. -/
def zeros (n : Nat) : Nat := (h.blockSize - (n + 1 + h.lengthSize) % h.blockSize) % h.blockSize

/-- The message, filled up to whole blocks. -/
def pad (message : Bytes) : Bytes :=
  let n := message.length
  message ++ 0x80 :: (List.replicate (h.zeros n) 0 ++ Bytes.ofNatural h.lengthSize (8 * n))

/-- Absorbs so many blocks. -/
def absorbBlocks : Nat → σ → Bytes → σ
  | 0, state, _ => state
  | n + 1, state, bytes =>
      absorbBlocks n (h.absorb state (bytes.take h.blockSize)) (bytes.drop h.blockSize)

/-- The digest of a message. -/
def hash (message : Bytes) : Bytes :=
  let padded := h.pad message
  h.output (h.absorbBlocks (padded.length / h.blockSize) h.initial padded)

end BlockHash

/-- The numbers of `width` octets each that stand at the front of the octets; so many of them. -/
def words (width : Nat) : Nat → Bytes → List Nat
  | 0, _ => []
  | n + 1, bytes => Bytes.toNatural (bytes.take width) :: words width n (bytes.drop width)

end RemoteSigner.Digest
