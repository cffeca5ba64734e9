import RemoteSigner.Digest.Sha1
import RemoteSigner.Digest.Sha2
import RemoteSigner.Signing.Hash

/-!
# Digests

The digest of a message by every hash algorithm; `HashAlgorithm.length_digest` says how long it is.

## Main definitions

* `HashAlgorithm.digest`: the digest of a message
* `HashAlgorithm.code`: the authentication code of a message under a key

## Main results

* `HashAlgorithm.length_digest`: a digest has the size of its algorithm
-/

namespace RemoteSigner

namespace HashAlgorithm

/-- The digest of a message. -/
def digest : HashAlgorithm → Bytes → Bytes
  | sha1 => Digest.Sha1.hash
  | sha224 => Digest.Sha2.sha224.hash
  | sha256 => Digest.Sha2.sha256.hash
  | sha384 => Digest.Sha2.sha384.hash
  | sha512 => Digest.Sha2.sha512.hash

@[simp] theorem length_digest (hash : HashAlgorithm) (message : Bytes) :
    (hash.digest message).length = hash.size := by
  cases hash with
  | sha1 => exact Digest.Sha1.length_hash message
  | sha224 => exact Digest.Sha2.Family.length_hash Digest.Sha2.family32 _ (by decide) message
  | sha256 => exact Digest.Sha2.Family.length_hash Digest.Sha2.family32 _ (by decide) message
  | sha384 => exact Digest.Sha2.Family.length_hash Digest.Sha2.family64 _ (by decide) message
  | sha512 => exact Digest.Sha2.Family.length_hash Digest.Sha2.family64 _ (by decide) message

/-- How many octets the function absorbs at once. -/
def blockSize : HashAlgorithm → Nat
  | sha1 | sha224 | sha256 => 64
  | sha384 | sha512 => 128

/-- The code of a message under a key, which nobody can compute without the key. -/
def code (hash : HashAlgorithm) (key message : Bytes) : Bytes :=
  let key := if hash.blockSize < key.length then hash.digest key else key
  let key := key ++ List.replicate (hash.blockSize - key.length) 0
  hash.digest (key.map (· ^^^ 0x5C) ++ hash.digest (key.map (· ^^^ 0x36) ++ message))

end HashAlgorithm

end RemoteSigner
