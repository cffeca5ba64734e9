import RemoteSigner.Client.Error
import RemoteSigner.Config.Location
import RemoteSigner.Keys.PublicKey
import RemoteSigner.Pem.Section
import RemoteSigner.Program.Child

/-!
# Keys held by a signer

To open a key, a client starts the signer and asks it for its certificates and its public key.
These stay as they are; everything else that a key does is one call to the signer.  However a start
fails, a child that has been started is given up.

## Main definitions

* `handshake`: asks for the certificates and the public key
* `Key.spawn`, `openKey`: starts a signer and opens its key
* `Key.sign`, `Key.encrypt`, `Key.decrypt`: what can be done with a key
* `Key.close`, `Key.drop`: the end of a key
-/

namespace RemoteSigner.Client

/-! ## Opening a key -/

/-- What a signer tells about its key at the start. -/
structure Identity where
  /-- The certificates, leaf first. -/
  chain : List Bytes
  /-- The public key. -/
  publicKey : PublicKey
  /-- The public key as octets. -/
  publicKeyOctets : Bytes
  deriving DecidableEq, Repr

/-- Names the call that failed. -/
def called (operation : Call.Tag) : Except Wire.Error α → Except Error α :=
  Except.mapError (.call operation)

/-- The certificates, of which there has to be one. -/
def acceptChain (result : Except Wire.Error (List Bytes)) : Except Error (List Bytes) := do
  let chain ← called .certificateChain result
  if chain.isEmpty then throw .emptyCertificateChain
  pure chain

/-- The public key in words and as octets. -/
def acceptKey (result : Except Wire.Error Bytes) : Except Error (PublicKey × Bytes) := do
  let octets ← called .publicKey result
  match PublicKey.decode octets with
  | .ok key => pure (key, octets)
  | .error .malformed => throw (.publicKey octets)
  | .error (.unsupported algorithm) => throw (.unsupportedPublicKey algorithm.text)

/-- Asks for the certificates and, if there are any, for the public key. -/
def handshake (c : Wire.Connection) : Except Error Identity × Wire.Connection :=
  let (chain, c) := c.certificateChain
  match acceptChain chain with
  | .error error => (.error error, c)
  | .ok chain =>
    let (key, c) := c.publicKey
    ((acceptKey key).map fun (key, octets) => ⟨chain, key, octets⟩, c)

/-- A key held by a signer. -/
structure Key extends Identity where
  /-- The signer. -/
  child : Child
  deriving DecidableEq, Repr

/-- A key that could not be opened. -/
structure Failure where
  /-- Why. -/
  error : Error
  /-- The signer, if one was started; it has been given up. -/
  child : Option Child := none
  deriving DecidableEq, Repr

/-- How a program is started with one argument. -/
abbrev Launcher := Bytes → Bytes → Except IoError Process

namespace Key

/-- Opens the key of a signer that has been started. -/
def ofChild (child : Child) : Except Failure Key :=
  let (identity, connection) := handshake child.connection
  let child := { child with connection }
  match identity with
  | .ok identity => .ok { identity with child }
  | .error error => .error ⟨error, some child.abandon⟩

/-- Starts a signer with a configuration and opens its key. -/
def spawn (launch : Launcher) (signer config : Bytes) : Except Failure Key :=
  match launch signer config with
  | .error error => .error ⟨.spawn signer error, none⟩
  | .ok process => ofChild (.start process)

end Key

/-- What a client finds where it runs. -/
structure Host where
  /-- The environment. -/
  environment : Environment
  /-- The files. -/
  files : FileSystem
  /-- The programs. -/
  launch : Launcher

/-- Opens the key that the configuration names. -/
def openKey (host : Host) (explicit : Option Bytes) : Except Failure Key :=
  let path := Config.resolvePath host.environment explicit
  match Config.loadSignerBinary host.files host.environment path with
  | .error error => .error ⟨.config error, none⟩
  | .ok signer => Key.spawn host.launch signer path

/-! ## Using a key -/

namespace Key

/-- The certificates as sections of a file, leaf first. -/
def chainFile (key : Key) : Bytes :=
  key.chain.flatMap fun contents => Pem.Section.encode ⟨.certificate, contents⟩

/-- Makes a call to the signer. -/
def call (operation : Call.Tag) (f : Wire.Connection → Except Wire.Error α × Wire.Connection)
    (key : Key) : Except Error α × Key :=
  let (result, connection) := f key.child.connection
  (called operation result, { key with child := { key.child with connection } })

/-- Signs a digest. -/
def sign (digest : Bytes) (opts : Option SignerOpts) : Key → Except Error Bytes × Key :=
  call .sign (·.sign (SignArgs.ofOpts digest opts))

/-- The hash algorithm of the padding where none is asked for. -/
def defaultPaddingHash : HashAlgorithm := .sha256

/-- Encrypts octets. -/
def encrypt (plaintext : Bytes) (hash : HashAlgorithm) : Key → Except Error Bytes × Key :=
  call .encrypt (·.encrypt ⟨plaintext, hash⟩)

/-- Decrypts octets. -/
def decrypt (ciphertext : Bytes) (hash : HashAlgorithm) : Key → Except Error Bytes × Key :=
  call .decrypt (·.decrypt ⟨ciphertext, hash⟩)

/-- Finishes with the signer.  All steps are attempted, and the first failure is reported. -/
def close (key : Key) : Except Error Unit × Child :=
  let (released, child) := key.child.release
  let (killed, child) := child.kill
  let (waited, child) := child.wait
  let result := do
    released.mapError Error.connectionClose
    killed.mapError Error.kill
    waited.mapError Error.wait
  (result, child.reap)

/-- Gives the key up without finishing with the signer. -/
def drop (key : Key) : Child := key.child.abandon

end Key

end RemoteSigner.Client
