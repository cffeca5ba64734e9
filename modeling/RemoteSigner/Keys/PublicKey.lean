import RemoteSigner.Curve.Edwards
import RemoteSigner.Curve.Encoding
import RemoteSigner.Der.Identifier
import RemoteSigner.Rsa.Key

/-!
# Public keys

A public key is written as an element that names its algorithm and holds the key as a string of
bits.  `PublicKey.decode` takes what `PublicKey.encode` writes, and other ways to write a point.

## Main definitions

* `PublicKey`: an RSA key, a point of a curve or an Ed25519 key
* `PublicKey.encode`, `PublicKey.decode`: a key with its algorithm, and back
-/

namespace RemoteSigner

open Der

/-- The public key of a signer. -/
inductive PublicKey where
  /-- An RSA key. -/
  | rsa (key : Rsa.PublicKey)
  /-- A point of a curve. -/
  | ecdsa (curve : Curve) (point : curve.Point)
  /-- An Ed25519 key. -/
  | ed25519 (octets : Bytes)
  deriving DecidableEq, Repr

/-! ## Algorithms -/

/-- The identifier of RSA keys, 1.2.840.113549.1.1.1. -/
def rsaIdentifier : Identifier :=
  ⟨[0x2A, 0x86, 0x48, 0x86, 0xF7, 0x0D, 0x01, 0x01, 0x01], by decide⟩

/-- The identifier of keys on curves, 1.2.840.10045.2.1. -/
def ecIdentifier : Identifier := ⟨[0x2A, 0x86, 0x48, 0xCE, 0x3D, 0x02, 0x01], by decide⟩

/-- The identifier of Ed25519 keys, 1.3.101.112. -/
def ed25519Identifier : Identifier := ⟨[0x2B, 0x65, 0x70], by decide⟩

/-- The identifier of a curve, 1.2.840.10045.3.1.7 or 1.3.132.0.34. -/
def Curve.identifier : Curve → Identifier
  | p256 => ⟨[0x2A, 0x86, 0x48, 0xCE, 0x3D, 0x03, 0x01, 0x07], by decide⟩
  | p384 => ⟨[0x2B, 0x81, 0x04, 0x00, 0x22], by decide⟩

/-- The algorithm of RSA keys. -/
def Der.Algorithm.isRsa (a : Algorithm) : Bool := a.identifier == rsaIdentifier && a.isNull

/-- The algorithm of keys on a curve. -/
def Der.Algorithm.isOn (c : Curve) (a : Algorithm) : Bool :=
  a.identifier == ecIdentifier && a.named? == some c.identifier

/-- The algorithm of Ed25519 keys. -/
def Der.Algorithm.isEd25519 (a : Algorithm) : Bool :=
  a.identifier == ed25519Identifier && a.parameters.isNone

/-! ## Numbers of RSA keys -/

namespace Rsa.PublicKey

/-- The octets of the numbers. -/
def encode (key : Rsa.PublicKey) : Bytes :=
  encodeSequence [encodeNatural key.modulus, encodeNatural key.exponent]

/-- Reads the numbers. -/
def read : Reader Rsa.PublicKey := Reader.within sequenceTag do
  let modulus ← readNatural
  return ⟨modulus, ← readNatural⟩

end Rsa.PublicKey

/-! ## Keys with their algorithms -/

/-- A key with its algorithm, before anybody has looked into it. -/
structure KeyInfo where
  /-- The algorithm. -/
  algorithm : Algorithm
  /-- The key. -/
  bits : BitString
  deriving DecidableEq, Repr

namespace KeyInfo

/-- Reads a key with its algorithm. -/
def read : Reader KeyInfo := Reader.within sequenceTag do
  let algorithm ← Algorithm.read
  return ⟨algorithm, ← readBits⟩

/-- The RSA key, if its numbers can be those of a key and the modulus has no more than 4096 bits. -/
def rsa? (info : KeyInfo) : Option Rsa.PublicKey := do
  guard info.algorithm.isRsa
  let key ← Rsa.PublicKey.read.all (← info.bits.whole?)
  guard (key.isValid ∧ key.bits ≤ Rsa.PublicKey.maxBits)
  some key

/-- The point of a curve. -/
def point? (c : Curve) (info : KeyInfo) : Option c.Point := do
  guard (info.algorithm.isOn c)
  c.decodePoint? (← info.bits.whole?)

/-- The Ed25519 key. -/
def ed25519? (info : KeyInfo) : Option Bytes := do
  guard info.algorithm.isEd25519
  let octets ← info.bits.whole?
  guard (Edwards.isPoint octets)
  some octets

/-- The key, if it is of a kind that is known. -/
def key? (info : KeyInfo) : Option PublicKey :=
  info.rsa?.map .rsa
    |>.or ((info.point? .p256).map (.ecdsa .p256))
    |>.or ((info.point? .p384).map (.ecdsa .p384))
    |>.or (info.ed25519?.map .ed25519)

end KeyInfo

namespace PublicKey

/-- Why octets are no public key. -/
inductive Fault where
  /-- They are no key with an algorithm. -/
  | malformed
  /-- The algorithm is not known, or its key is not valid. -/
  | unsupported (algorithm : Identifier)
  deriving DecidableEq, Repr

/-- The public key that the octets stand for. -/
def decode (bytes : Bytes) : Except Fault PublicKey :=
  match KeyInfo.read.all bytes with
  | none => .error .malformed
  | some info => match info.key? with
    | some key => .ok key
    | none => .error (.unsupported info.algorithm.identifier)

/-- The octets of a public key. -/
def encode : PublicKey → Bytes
  | rsa key =>
    encodeSequence
      [encodeSequence [rsaIdentifier.encode, Der.encode nullTag []],
       encodeBits key.encode]
  | ecdsa c p =>
    encodeSequence
      [encodeSequence [ecIdentifier.encode, c.identifier.encode],
       encodeBits p.encode]
  | ed25519 octets =>
    encodeSequence [encodeSequence [ed25519Identifier.encode], encodeBits octets]

/-- The kind of the key. -/
def kind : PublicKey → String
  | rsa _ => "RSA"
  | ecdsa .. => "EC"
  | ed25519 _ => "ED25519"

end PublicKey

end RemoteSigner
