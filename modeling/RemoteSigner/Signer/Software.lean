import RemoteSigner.Curve.Ecdsa
import RemoteSigner.Keys.PrivateKey
import RemoteSigner.Rsa.Oaep
import RemoteSigner.Rsa.Pkcs1
import RemoteSigner.Rsa.Pss
import RemoteSigner.Signer.Provider

/-!
# Keys in files

The certificates and the private key of a software provider come from PEM files.  RSA keys sign by
PKCS #1 v1.5 or RSASSA-PSS, and encrypt and decrypt by RSAES-OAEP.  Keys on curves only sign.

## Main definitions

* `SoftwareKey.load`: reads certificates and a private key
* `SoftwareKey.provider`: the provider of a key in memory
-/

namespace RemoteSigner.Signer

/-! ## Files -/

/-- The file at a path, for a purpose that completes the sentence "PEM error at the path while". -/
def openPem (files : FileSystem) (path context : String) : Except Error File :=
  (files (Bytes.ofText path)).mapError fun error => .pem path context (.io error)

/-- The certificates in a file, leaf first; there has to be one. -/
def readCertificates (files : FileSystem) (path : String) : Except Error (List Bytes) := do
  let context := "reading the certificate chain"
  let file ← openPem files path context
  let sections ← (Pem.readAll (· == .certificate) file).mapError (.pem path context)
  if sections.isEmpty then throw (.noCertificate path)
  return sections.map (·.contents)

/-- The private key in a file. -/
def readPrivateKey (files : FileSystem) (path : String) : Except Error PrivateKey := do
  let context := "reading the private key"
  let file ← openPem files path context
  let found ← (Pem.readFirst PrivateKey.isLabel file).mapError (.pem path context)
  match PrivateKey.ofSection? found with
  | some key => pure key
  | none => throw (.unsupportedKey path)

/-- A private key with its certificates, in memory. -/
structure SoftwareKey where
  /-- The certificates, leaf first. -/
  chain : List Bytes
  /-- The private key. -/
  key : PrivateKey
  deriving DecidableEq, Repr

namespace SoftwareKey

/-- Reads the files that a configuration names; the certificates come first. -/
def load (files : FileSystem) (config : Config.Software) : Except Error SoftwareKey := do
  let chain ← readCertificates files config.certChain
  return ⟨chain, ← readPrivateKey files config.privateKey⟩

/-- The key in words, without anything secret. -/
def summary (software : SoftwareKey) : String :=
  "SoftwareProvider \x7b chain_len: " ++ software.chain.length.repr ++ ", algorithm: \"" ++
    software.key.algorithm ++ "\", .. \x7d"

end SoftwareKey

/-! ## Operations with a key -/

/-- The longest salt that an RSA key permits. -/
def maxSaltLength (key : Rsa.PublicKey) (hash : HashAlgorithm) : Nat := key.size - (hash.size + 2)

/-- How long a salt has to be. -/
def saltLength (key : Rsa.PublicKey) (hash : HashAlgorithm) : SaltLength → Nat
  | .auto => maxSaltLength key hash
  | .equalsHash => hash.size
  | .bytes n => n.toNat

variable {m : Type → Type} [Monad m]

/-- Octets from a source of random octets; exactly as many as are wanted, whatever the source
gives. -/
def drawn (draw : Nat → m Bytes) (n : Nat) : m Bytes := do
  let octets ← draw n
  pure (octets.take n ++ List.replicate (n - octets.length) 0)

/-- Signs a digest with an RSA key. -/
def signRsa (draw : Nat → m Bytes) (key : Rsa.PrivateKey) (digest : Bytes)
    (opts : Option SignerOpts) : m (Except Error Bytes) :=
  match opts with
  | none => pure ((Rsa.Pkcs1.signRaw key digest).mapError .rsa)
  | some (.hash hash) => pure ((Rsa.Pkcs1.sign key hash digest).mapError .rsa)
  | some (.pss hash length) =>
    let limit := maxSaltLength key.toPublicKey hash
    let wanted := saltLength key.toPublicKey hash length
    if limit < wanted then pure (.error (.saltLength wanted limit))
    else do
      let salt ← drawn draw wanted
      pure ((Rsa.Pss.sign key hash digest salt).mapError .rsa)

/-- Signs a digest with a key on a curve. -/
def signEcdsa (c : Curve) (secret : Nat) (digest : Bytes) (opts : Option SignerOpts) :
    Except Error Bytes :=
  match opts with
  | some (.pss ..) => .error (.unsupportedOperation .pss)
  | _ => match c.sign? secret digest with
    | some signature => .ok signature.encode
    | none => .error .ecdsa

/-- The provider of a key in memory. -/
def SoftwareKey.provider (draw : Nat → m Bytes) (software : SoftwareKey) : Provider m where
  certificateChain := pure (.ok software.chain)
  publicKey := pure (.ok software.key.publicKey.encode)
  sign digest opts := match software.key with
    | .rsa key => signRsa draw key digest opts
    | .ecdsa c secret _ => pure (signEcdsa c secret digest opts)
  encrypt data hash := match software.key with
    | .rsa key => do
      let seed ← drawn draw hash.size
      pure ((Rsa.Oaep.encrypt key.toPublicKey hash seed data).mapError .rsa)
    | .ecdsa .. => unsupported .encrypt
  decrypt data hash := match software.key with
    | .rsa key => pure ((Rsa.Oaep.decrypt key hash data).mapError .rsa)
    | .ecdsa .. => unsupported .decrypt

end RemoteSigner.Signer
