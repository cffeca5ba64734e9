import RemoteSigner.Rsa.Key
import RemoteSigner.Rsa.Mask

/-!
# Signatures by RSASSA-PSS

The digest is hashed together with a salt, and what is signed shows that hash and, under a mask,
the salt.  One bit less than the modulus has is filled; so a modulus with one bit more than whole
octets leaves one octet unused.

## Main definitions

* `encode`, `decode?`: a digest with a salt, and the salt of what was signed
* `sign`, `saltOf?`: signatures, and the salt of a signature
-/

namespace RemoteSigner.Rsa.Pss

/-- What is hashed: zeros, the digest and the salt. -/
def salted (hash : HashAlgorithm) (digest salt : Bytes) : Bytes :=
  hash.digest (List.replicate 8 0 ++ digest ++ salt)

/-- How many octets are needed for so many bits. -/
def octetsFor (bits : Nat) : Nat := (bits + 7) / 8

/-- Clears the bits of the first octet that do not belong to `bits` bits. -/
def clearUnused (bits : Nat) : Bytes → Bytes
  | [] => []
  | b :: rest => UInt8.ofNat (b.toNat % (1 <<< (8 - (8 * octetsFor bits - bits)))) :: rest

/-- What the private operation is applied to: so many bits. -/
def encode (hash : HashAlgorithm) (digest salt : Bytes) (bits : Nat) : Except Error Bytes :=
  let length := octetsFor bits
  if digest.length ≠ hash.size then .error .inputNotHashed
  else if length < hash.size + salt.length + 2 then .error .internal
  else
    let seed := salted hash digest salt
    let block := List.replicate (length - salt.length - hash.size - 2) 0 ++ 0x01 :: salt
    .ok (clearUnused bits (masked hash seed block) ++ seed ++ [0xBC])

/-- Signs a digest with a salt. -/
def sign (key : PrivateKey) (hash : HashAlgorithm) (digest salt : Bytes) : Except Error Bytes := do
  key.applyOctets (← encode hash digest salt (key.bits - 1))

/-- The salt in what was signed, if it is the signature of a digest. -/
def decode? (hash : HashAlgorithm) (digest encoded : Bytes) (bits : Nat) : Option Bytes := do
  let length := octetsFor bits
  guard (encoded.length = length ∧ hash.size + 2 ≤ length ∧ encoded.getLast? = some 0xBC)
  let block := encoded.take (length - hash.size - 1)
  let seed := (encoded.drop (length - hash.size - 1)).take hash.size
  guard (clearUnused bits block = block)
  match (clearUnused bits (masked hash seed block)).dropWhile (· == 0) with
  | 0x01 :: salt =>
    guard (salted hash digest salt = seed)
    some salt
  | _ => none

/-- The salt with which a signature of a digest was made, if it is one. -/
def saltOf? (key : PublicKey) (hash : HashAlgorithm) (digest signature : Bytes) : Option Bytes := do
  let n := Bytes.toNatural signature
  guard (signature.length = key.size ∧ n < key.modulus)
  let encoded := key.raise n
  guard (Bytes.widthOf encoded ≤ octetsFor (key.bits - 1))
  decode? hash digest (Bytes.ofNatural (octetsFor (key.bits - 1)) encoded) (key.bits - 1)

end RemoteSigner.Rsa.Pss
