import RemoteSigner.Digest.Algorithm
import RemoteSigner.Rsa.Key

/-!
# Signatures by PKCS #1 v1.5

The digest is preceded by octets that name its hash algorithm, and by enough padding to fill the
modulus.  Octets that are no digest are signed without a name.
-/

namespace RemoteSigner.Rsa.Pkcs1

/-- The octets that name a hash algorithm in front of its digest. -/
def algorithmMark : HashAlgorithm → Bytes
  | .sha1 =>
      [0x30, 0x21, 0x30, 0x09, 0x06, 0x05, 0x2B, 0x0E, 0x03, 0x02, 0x1A, 0x05, 0x00, 0x04, 0x14]
  | .sha224 => mark 0x2D 0x04 0x1C
  | .sha256 => mark 0x31 0x01 0x20
  | .sha384 => mark 0x41 0x02 0x30
  | .sha512 => mark 0x51 0x03 0x40
where
  /-- The octets with the length of all, the number of the algorithm and the length of the digest.
  -/
  mark (length number size : UInt8) : Bytes :=
    [0x30, length, 0x30, 0x0D, 0x06, 0x09, 0x60, 0x86, 0x48, 0x01, 0x65, 0x03, 0x04, 0x02,
     number, 0x05, 0x00, 0x04, size]

/-- What the private operation is applied to, for a modulus of `size` octets. -/
def pad (size : Nat) (content : Bytes) : Except Error Bytes :=
  if size < content.length + 11 then .error .messageTooLong
  else .ok (0x00 :: 0x01 :: (List.replicate (size - content.length - 3) 0xFF ++ 0x00 :: content))

/-- Signs octets as they are. -/
def signRaw (key : PrivateKey) (content : Bytes) : Except Error Bytes := do
  key.applyOctets (← pad key.size content)

/-- Signs a digest. -/
def sign (key : PrivateKey) (hash : HashAlgorithm) (digest : Bytes) : Except Error Bytes :=
  if digest.length ≠ hash.size then .error .inputNotHashed
  else signRaw key (algorithmMark hash ++ digest)

end RemoteSigner.Rsa.Pkcs1
