import RemoteSigner.Client.Key
import RemoteSigner.Digest.Algorithm

/-!
# Client certificates in TLS

A key signs messages of a handshake by one of the schemes that belong to its kind.  The message is
hashed by the client, so that only a digest goes to the signer; Ed25519 signs the message itself.
A scheme is known by its number in a handshake, and most numbers stand for schemes that no key has;
messages are not signed by these.

## Main definitions

* `schemes`, `choose`: the schemes of a key, and the first one that is offered
* `present`: the certificates, if some scheme is offered
* `prepare`: what goes to the signer for a message, if it is signed by the scheme
* `sign`: the signature of a message by a scheme
-/

namespace RemoteSigner.Client.Tls

/-! ## Schemes -/

/-- A way to sign a message. -/
structure Scheme where
  /-- Its number in a handshake. -/
  number : UInt16
  deriving DecidableEq, Repr

namespace Scheme

@[match_pattern] def rsaPkcs1Sha256 : Scheme := ⟨0x0401⟩
@[match_pattern] def rsaPkcs1Sha384 : Scheme := ⟨0x0501⟩
@[match_pattern] def rsaPkcs1Sha512 : Scheme := ⟨0x0601⟩
@[match_pattern] def rsaPssSha256 : Scheme := ⟨0x0804⟩
@[match_pattern] def rsaPssSha384 : Scheme := ⟨0x0805⟩
@[match_pattern] def rsaPssSha512 : Scheme := ⟨0x0806⟩
@[match_pattern] def ecdsaP256Sha256 : Scheme := ⟨0x0403⟩
@[match_pattern] def ecdsaP384Sha384 : Scheme := ⟨0x0503⟩
@[match_pattern] def ed25519 : Scheme := ⟨0x0807⟩

/-- The algorithm of the digests that are signed by a scheme, and whether they are salted; nothing
for schemes by which no digests are signed. -/
def hash? : Scheme → Option (HashAlgorithm × Bool)
  | rsaPssSha256 => some (.sha256, true)
  | rsaPssSha384 => some (.sha384, true)
  | rsaPssSha512 => some (.sha512, true)
  | rsaPkcs1Sha256 | ecdsaP256Sha256 => some (.sha256, false)
  | rsaPkcs1Sha384 | ecdsaP384Sha384 => some (.sha384, false)
  | rsaPkcs1Sha512 => some (.sha512, false)
  | _ => none

end Scheme

/-- The schemes of a key, the preferred one first. -/
def schemes : PublicKey → List Scheme
  | .rsa _ =>
    [.rsaPssSha256, .rsaPssSha384, .rsaPssSha512,
      .rsaPkcs1Sha256, .rsaPkcs1Sha384, .rsaPkcs1Sha512]
  | .ecdsa .p256 _ => [.ecdsaP256Sha256]
  | .ecdsa .p384 _ => [.ecdsaP384Sha384]
  | .ed25519 _ => [.ed25519]

/-- The kind of signatures of a key. -/
def algorithm : PublicKey → String
  | .rsa _ => "RSA"
  | .ecdsa .. => "ECDSA"
  | .ed25519 _ => "ED25519"

/-- The scheme that is used with a server: the first one of the key that the server offers. -/
def choose (key : PublicKey) (offered : List Scheme) : Option Scheme :=
  (schemes key).find? offered.contains

/-- The certificates that a server gets to see; nothing if it offers no scheme of the key. -/
def present (identity : Identity) (offered : List Scheme) : Option (List Bytes) :=
  if (schemes identity.publicKey).any offered.contains then some identity.chain else none

/-! ## Signing -/

/-- The failure of a scheme by which no messages are signed. -/
def unsupported (wording : Wording) (scheme : Scheme) : Error :=
  .tls ("Unsupported signature scheme " ++ wording.scheme scheme.number)

/-- What goes to the signer for a message: octets and options. -/
def prepare (wording : Wording) (scheme : Scheme) (message : Bytes) :
    Except Error (Bytes × Option SignerOpts) :=
  if scheme = .ed25519 then .ok (message, none)
  else match scheme.hash? with
    | some (hash, true) => .ok (hash.digest message, some (.pssOf hash))
    | some (hash, false) => .ok (hash.digest message, some (.hash hash))
    | none => .error (unsupported wording scheme)

/-- Signs a message.  The signer is not asked if the message is not signed by the scheme. -/
def sign (wording : Wording) (scheme : Scheme) (message : Bytes) (key : Key) :
    Except Error Bytes × Key :=
  match prepare wording scheme message with
  | .error error => (.error error, key)
  | .ok (octets, opts) =>
    let (result, key) := key.sign octets opts
    (result.mapError fun error => .tls (error.message wording), key)

end RemoteSigner.Client.Tls
