import RemoteSigner.Client.Key

/-!
# The interface for programs in C

A program gives a path as a string that ends with a zero, and a buffer for the result.  Every
function opens a key, uses it and finishes with it.  All that a caller learns of a failure is the
length zero.

The length of a result can be asked for without a buffer.  A buffer that is too short is left as it
is, and of a buffer that is longer than the result only the front changes.

## Main definitions

* `Written`: the length of a result and the buffer
* `getCertPem`, `sign`, `keyType`: the functions
-/

namespace RemoteSigner.Client.Embedding

/-- The version of the interface. -/
def version : String := "0.1.0"

/-- The path that a program gives: nothing if it is no text. -/
def configPath (config : Option Bytes) : Option Bytes :=
  (config.map (·.takeWhile (· != 0))).filter fun path => (Bytes.toText? path).isSome

/-! ## Buffers -/

/-- The buffer with the result at its front, if that fits. -/
def fill (result buffer : Bytes) : Option Bytes :=
  if result.length ≤ buffer.length then some (result ++ buffer.drop result.length) else none

/-- What a function gives back. -/
structure Written where
  /-- The length that is returned. -/
  length : Nat
  /-- The buffer, if there is one. -/
  buffer : Option Bytes
  deriving DecidableEq, Repr

/-- A result whose length is returned whatever the buffer. -/
def writeAlways (result : Option Bytes) (buffer : Option Bytes) : Written :=
  match result with
  | none => ⟨0, buffer⟩
  | some result => ⟨result.length, buffer.map fun buffer => (fill result buffer).getD buffer⟩

/-- A result whose length is returned unless there is a buffer that is too short. -/
def writeIfFits (result : Option Bytes) (buffer : Option Bytes) : Written :=
  match result, buffer with
  | none, buffer => ⟨0, buffer⟩
  | some result, none => ⟨result.length, none⟩
  | some result, some buffer => match fill result buffer with
    | some filled => ⟨result.length, some filled⟩
    | none => ⟨0, some buffer⟩

/-! ## Functions -/

/-- Opens a key, uses it and finishes with it, whatever the use comes to.  Also gives the signer,
if one was started. -/
def withKey (host : Host) (config : Option Bytes) (use : Key → Except Error α × Key) :
    Option α × Option Child :=
  match openKey host (configPath config) with
  | .error failure => (none, failure.child)
  | .ok key =>
    let (result, key) := use key
    (result.toOption, some key.close.2)

/-- The certificates as sections of a file. -/
def certificates (host : Host) (config : Option Bytes) : Option Bytes × Option Child :=
  withKey host config fun key => (.ok key.chainFile, key)

/-- How the interface signs a digest of some length: nothing for keys that it does not sign with. -/
def signOptions (key : PublicKey) (length : Nat) : Option SignerOpts :=
  match key with
  | .rsa _ => some (.pss .sha256 (.bytes (UInt64.ofNat length)))
  | .ecdsa .. => some (.hash .sha256)
  | .ed25519 _ => none

/-- The signature of a SHA-256 digest. -/
def signature (host : Host) (config : Option Bytes) (digest : Bytes) :
    Option Bytes × Option Child :=
  let (result, child) := withKey host config fun key =>
    match signOptions key.publicKey digest.length with
    | none => (.ok none, key)
    | some opts =>
      let (result, key) := key.sign digest (some opts)
      (result.map some, key)
  (result.join, child)

/-- The kind of the key, as far as the interface signs with it. -/
def kindOf : PublicKey → String
  | .ed25519 _ => "unknown"
  | key => key.kind

/-- The kind of the key; `unknown` if there is none. -/
def keyType (host : Host) (config : Option Bytes) : String × Option Child :=
  let (kind, child) := withKey host config fun key => (.ok (kindOf key.publicKey), key)
  (kind.getD "unknown", child)

/-- Writes the certificates into a buffer. -/
def getCertPem (host : Host) (config buffer : Option Bytes) : Written × Option Child :=
  let (result, child) := certificates host config
  (writeAlways result buffer, child)

/-- Writes a signature into a buffer; nothing is signed without a digest. -/
def sign (host : Host) (config digest buffer : Option Bytes) : Written × Option Child :=
  match digest with
  | none => (⟨0, buffer⟩, none)
  | some digest =>
    let (result, child) := signature host config digest
    (writeIfFits result buffer, child)

end RemoteSigner.Client.Embedding
