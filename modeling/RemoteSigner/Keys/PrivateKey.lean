import RemoteSigner.Keys.PublicKey
import RemoteSigner.Pem.Section

/-!
# Private keys

Files hold private keys in three ways: an RSA key by itself, a key on a curve by itself, or a key
with its algorithm.

## Main definitions

* `PrivateKey`: an RSA key, or a number with its point
* `PrivateKeyInfo.read`: a private key with its algorithm
* `PrivateKey.ofSection?`: the key in a section of a file
-/

namespace RemoteSigner

open Der

/-- The private key of a signer. -/
inductive PrivateKey where
  /-- An RSA key. -/
  | rsa (key : Rsa.PrivateKey)
  /-- A number, and the point that it belongs to. -/
  | ecdsa (curve : Curve) (secret : Nat) (point : curve.Point)
  deriving DecidableEq, Repr

/-! ## Elements with a number of their own -/

/-- The tag of the element with this number, with parts or without. -/
def contextTag (number : UInt8) (parts : Bool) : UInt8 :=
  0x80 + (if parts then 0x20 else 0) + number

/-- The contents of the element with this number, if there is one ahead.  Elements with lower
numbers are passed over; `fuel` bounds their count. -/
def contextElement (number : UInt8) (parts : Bool) : Nat → Reader (Option Bytes)
  | 0 => pure none
  | fuel + 1 => do
    match ← peekTag with
    | none => pure none
    | some tag =>
      guard (isTag tag)
      if isContextual tag = false ∨ number < tag % 32 then pure none
      else if number = tag % 32 then return some (← readTagged (contextTag number parts))
      else
        discard readElement
        contextElement number parts fuel

/-- The contents of the element with this number, if there is one ahead. -/
def readContext (number : UInt8) (parts : Bool) : Reader (Option Bytes) :=
  fun bytes => contextElement number parts (bytes.length + 1) bytes

/-- Reads elements up to the end, each of which has a number of its own and one part. -/
def skipContexts : Nat → Reader Unit
  | 0 => pure ()
  | fuel + 1 => do
    match ← peekTag with
    | none => pure ()
    | some _ =>
      let e ← readElement
      guard (isContextual e.tag ∧ e.tag % 64 / 32 = 1)
      let _ ← StateT.lift (readElement.all e.contents)
      skipContexts fuel

/-! ## RSA keys -/

namespace Rsa.PrivateKey

/-- Reads the numbers of a key with two factors.  The three numbers that could be computed from the
others are not looked at. -/
def read : Reader Rsa.PrivateKey := Reader.within sequenceTag do
  let version ← readNatural
  guard (version = 0)
  let modulus ← readNatural
  let exponent ← readNatural
  let privateExponent ← readNatural
  let p ← readNatural
  let q ← readNatural
  let _ ← readNatural
  let _ ← readNatural
  let _ ← readNatural
  pure ⟨⟨modulus, exponent⟩, privateExponent, p, q⟩

/-- The key that the octets stand for, if its numbers fit together. -/
def decode? (bytes : Bytes) : Option Rsa.PrivateKey := do
  let key ← read.all bytes
  guard key.isConsistent
  some key

end Rsa.PrivateKey

/-! ## Keys on curves -/

namespace Curve

/-- How few octets a secret number may have. -/
def minSecretLength : Nat := 24

/-- The secret number in some octets, with its point. -/
def secret? (c : Curve) (bytes : Bytes) : Option (Nat × c.Point) := do
  guard (minSecretLength ≤ bytes.length ∧ bytes.length ≤ c.size)
  let n := Bytes.toNatural bytes
  guard (0 < n ∧ n < c.order)
  some (n, ← multiply n c.generator)

/-- A key on a curve by itself, before anybody has looked into it. -/
structure SecretInfo where
  /-- The octets of the secret number. -/
  secret : Bytes
  /-- The point, if it is given. -/
  point : Option Bytes
  deriving DecidableEq, Repr

namespace SecretInfo

/-- Reads a key on a curve.  The curve may be named, but the name is not looked at: a key is one of
whatever curve it is wanted for. -/
def read : Reader SecretInfo := Reader.within sequenceTag do
  let version ← readNatural
  guard (version = 1)
  let secret ← readTagged octetStringTag
  let named ← readContext 0 true
  discard (StateT.lift (named.mapM readIdentifier.all))
  let point ← readContext 1 true
  let point ← StateT.lift (point.mapM fun contents => do (← readBits.all contents).whole?)
  pure ⟨secret, point⟩

/-- The key, if a point that is given belongs to its number. -/
def key? (c : Curve) (info : SecretInfo) : Option PrivateKey := do
  let (secret, point) ← c.secret? info.secret
  guard (info.point.all fun octets => octets == point.encode || octets == point.compressed)
  some (.ecdsa c secret point)

end SecretInfo

end Curve

/-! ## Keys with their algorithms -/

/-- A private key with its algorithm, before anybody has looked into it. -/
structure PrivateKeyInfo where
  /-- The algorithm. -/
  algorithm : Algorithm
  /-- The octets of the key. -/
  key : Bytes
  deriving DecidableEq, Repr

namespace PrivateKeyInfo

/-- Reads a private key with its algorithm.  In the second version the public key follows, and the
first version has none. -/
def read : Reader PrivateKeyInfo := Reader.within sequenceTag do
  let version ← readNatural
  guard (version ≤ 1)
  let algorithm ← Algorithm.read
  let key ← readTagged octetStringTag
  let publicKey ← readContext 1 false
  let publicKey ← StateT.lift (publicKey.mapM fun contents => do (← BitString.of? contents).whole?)
  guard (publicKey.isSome = (version == 1))
  fun bytes => skipContexts bytes.length bytes
  pure ⟨algorithm, key⟩

/-- The key on a curve. -/
def onCurve? (c : Curve) (info : PrivateKeyInfo) : Option PrivateKey := do
  guard (info.algorithm.isOn c)
  (← Curve.SecretInfo.read.all info.key).key? c

/-- The key, if it is of a kind that is known. -/
def key? (info : PrivateKeyInfo) : Option PrivateKey :=
  (if info.algorithm.isRsa then (Rsa.PrivateKey.decode? info.key).map .rsa else none)
    |>.or (info.onCurve? .p256)
    |>.or (info.onCurve? .p384)

end PrivateKeyInfo

namespace PrivateKey

/-- The labels of sections with private keys. -/
def isLabel (label : Pem.Label) : Bool :=
  label == .rsaPrivateKey || label == .privateKey || label == .ecPrivateKey

/-- The private key in a section of a file. -/
def ofSection? (s : Pem.Section) : Option PrivateKey :=
  match s.label with
  | .rsaPrivateKey => (Rsa.PrivateKey.decode? s.contents).map .rsa
  | .ecPrivateKey => do
    let info ← Curve.SecretInfo.read.all s.contents
    (info.key? .p256).or (info.key? .p384)
  | .privateKey => do (← PrivateKeyInfo.read.all s.contents).key?
  | _ => none

/-- The public key that belongs to a private key. -/
def publicKey : PrivateKey → PublicKey
  | rsa key => .rsa key.toPublicKey
  | ecdsa c _ p => .ecdsa c p

/-- The algorithm in words. -/
def algorithm : PrivateKey → String
  | rsa _ => "RSA"
  | ecdsa .p256 .. => "ECDSA P-256"
  | ecdsa .p384 .. => "ECDSA P-384"

end PrivateKey

end RemoteSigner
