import RemoteSigner.Rsa.Key
import RemoteSigner.Rsa.Mask

/-!
# Encryption by RSAES-OAEP

The message stands behind the hash of an empty label, zeros and a one.  A random seed masks all of
that, and the result masks the seed.

## Main definitions

* `encode`, `decode`: a message under its masks, and back
* `encrypt`, `decrypt`: ciphertexts
-/

namespace RemoteSigner.Rsa.Oaep

/-- How many octets of a ciphertext carry no message. -/
def overhead (hash : HashAlgorithm) : Nat := 2 * hash.size + 2

/-- What the public operation is applied to: `size` octets. -/
def encode (hash : HashAlgorithm) (seed message : Bytes) (size : Nat) : Except Error Bytes :=
  if size < message.length + overhead hash then .error .messageTooLong
  else
    let zeros := List.replicate (size - message.length - overhead hash) 0
    let block := masked hash seed (hash.digest [] ++ zeros ++ 0x01 :: message)
    .ok (0x00 :: (masked hash block seed ++ block))

/-- The message in what was encrypted. -/
def decode (hash : HashAlgorithm) (encoded : Bytes) : Except Error Bytes :=
  if encoded.length < overhead hash then .error .decryption
  else match encoded with
    | 0x00 :: rest =>
      let block := rest.drop hash.size
      let seed := masked hash block (rest.take hash.size)
      let block := masked hash seed block
      if block.take hash.size ≠ hash.digest [] then .error .decryption
      else match (block.drop hash.size).dropWhile (· == 0) with
        | 0x01 :: message => .ok message
        | _ => .error .decryption
    | _ => .error .decryption

/-- Encrypts a message; the seed has to be as long as a digest. -/
def encrypt (key : PublicKey) (hash : HashAlgorithm) (seed message : Bytes) :
    Except Error Bytes := do
  let encoded ← encode hash seed message key.size
  return Bytes.ofNatural key.size (key.raise (Bytes.toNatural encoded))

/-- Decrypts a ciphertext, which has to be as long as the modulus. -/
def decrypt (key : PrivateKey) (hash : HashAlgorithm) (ciphertext : Bytes) :
    Except Error Bytes := do
  if ciphertext.length ≠ key.size then throw .decryption
  decode hash (← key.applyOctets ciphertext)

end RemoteSigner.Rsa.Oaep
