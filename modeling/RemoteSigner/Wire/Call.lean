import RemoteSigner.Signing.Options

/-!
# Calls and replies

What a client may ask a signer to do, and what a signer may give back.

## Main definitions

* `SignArgs`, `EncryptArgs`, `DecryptArgs`: the arguments of calls
* `SignArgs.effectiveOpts`: the options that count
* `Call`, `Reply`: what is asked for, and what is given back
-/

namespace RemoteSigner

open Json

/-! ## Arguments -/

/-- What to sign, and how. -/
structure SignArgs where
  /-- The digest to sign. -/
  digest : Bytes
  /-- The algorithm that the digest comes from; it counts only where there are no options. -/
  hash : Option HashAlgorithm
  /-- The options of the signature. -/
  opts : Option SignerOpts
  deriving DecidableEq, Repr

namespace SignArgs

/-- Arguments whose hash algorithm is that of the options. -/
def ofOpts (digest : Bytes) (opts : Option SignerOpts) : SignArgs :=
  ⟨digest, opts.map SignerOpts.algorithm, opts⟩

/-- The options that a signer has to use: the given ones, or else the bare hash algorithm. -/
def effectiveOpts (args : SignArgs) : Option SignerOpts :=
  args.opts.or (args.hash.map SignerOpts.hash)

/-- Arguments that are being read. -/
structure Draft where
  digest : Option Bytes := none
  hash : Option (Option HashAlgorithm) := none
  opts : Option (Option SignerOpts) := none

/-- How the arguments are read. -/
def record : Record Draft SignArgs where
  expected := "struct SignArgs"
  fields := [
    Field.of "digest" (·.digest) (fun draft value => { draft with digest := some value })
      Message.readBytes,
    Field.of "hash" (·.hash) (fun draft value => { draft with hash := some value })
      (Item.option Message.read),
    Field.of "opts" (·.opts) (fun draft value => { draft with opts := some value })
      (Item.option Message.read)]
  empty := {}
  finish complain draft := do
    let digest ← required complain "digest" draft.digest
    return ⟨digest, draft.hash.join, draft.opts.join⟩

instance : Message SignArgs where
  toValue args := .object <|
    ("digest", Message.bytesValue args.digest) ::
      (Message.optional "hash" (args.hash.map Message.toValue) ++
        Message.optional "opts" (args.opts.map Message.toValue))
  read := record.read

end SignArgs

/-- Octets to be encrypted or decrypted, with the hash algorithm of the OAEP padding.  The two
kinds of arguments differ in the name of the octets alone. -/
structure CipherArgs where
  /-- The octets to encrypt or decrypt. -/
  data : Bytes
  /-- The hash algorithm of the padding. -/
  hash : HashAlgorithm
  deriving DecidableEq, Repr

namespace CipherArgs

/-- Arguments that are being read. -/
structure Draft where
  data : Option Bytes := none
  hash : Option HashAlgorithm := none

/-- How the arguments are read, where messages use these names. -/
def record (expected name : String) : Record Draft CipherArgs where
  expected := expected
  fields := [
    Field.of name (·.data) (fun draft value => { draft with data := some value }) Message.readBytes,
    Field.of "hash" (·.hash) (fun draft value => { draft with hash := some value }) Message.read]
  empty := {}
  finish complain draft := do
    let data ← required complain name draft.data
    return ⟨data, ← required complain "hash" draft.hash⟩

/-- The JSON form of the arguments, with this name for the octets. -/
def toValue (name : String) (args : CipherArgs) : Value :=
  .object [(name, Message.bytesValue args.data), ("hash", Message.toValue args.hash)]

end CipherArgs

/-- What to encrypt. -/
structure EncryptArgs extends CipherArgs
  deriving DecidableEq, Repr

instance : Message EncryptArgs where
  toValue args := args.toCipherArgs.toValue "plaintext"
  read item := return ⟨← (CipherArgs.record "struct EncryptArgs" "plaintext").read item⟩

/-- What to decrypt. -/
structure DecryptArgs extends CipherArgs
  deriving DecidableEq, Repr

instance : Message DecryptArgs where
  toValue args := args.toCipherArgs.toValue "ciphertext"
  read item := return ⟨← (CipherArgs.record "struct DecryptArgs" "ciphertext").read item⟩

/-! ## Calls -/

/-- What a client asks for. -/
inductive Call where
  /-- The certificates, leaf first. -/
  | certificateChain
  /-- The public key. -/
  | publicKey
  /-- A signature of a digest. -/
  | sign (args : SignArgs)
  /-- Encryption with the public key. -/
  | encrypt (args : EncryptArgs)
  /-- Decryption with the private key. -/
  | decrypt (args : DecryptArgs)
  deriving DecidableEq, Repr

namespace Call

/-- The kinds of calls. -/
inductive Tag where
  | certificateChain | publicKey | sign | encrypt | decrypt
  deriving DecidableEq, Repr

namespace Tag

/-- The kinds by the names that messages use. -/
def names : List (String × Tag) :=
  [("certificate_chain", certificateChain), ("public", publicKey), ("sign", sign),
   ("encrypt", encrypt),  ("decrypt", decrypt)]

/-- The name that people read. -/
def name : Tag → String
  | certificateChain => "CertificateChain"
  | publicKey => "Public"
  | sign => "Sign"
  | encrypt => "Encrypt"
  | decrypt => "Decrypt"

end Tag

/-- The kind of a call. -/
def tag : Call → Tag
  | certificateChain => .certificateChain
  | publicKey => .publicKey
  | sign _ => .sign
  | encrypt _ => .encrypt
  | decrypt _ => .decrypt

/-- The name that people read. -/
def name (call : Call) : String := call.tag.name

/-- How a call is read. -/
def tagged : Tagged Tag Call where
  expected := "adjacently tagged enum Call"
  tag := "method"
  content := "params"
  names := Tag.names
  alone
    | .certificateChain => some certificateChain
    | .publicKey => some publicKey
    | _ => none
  read
    | .certificateChain, item => do
        item.nothing "unit variant Call::CertificateChain"
        pure certificateChain
    | .publicKey, item => do item.nothing "unit variant Call::Public"; pure publicKey
    | .sign, item => return sign (← Message.read item)
    | .encrypt, item => return encrypt (← Message.read item)
    | .decrypt, item => return decrypt (← Message.read item)

instance : Message Call where
  toValue
    | certificateChain => .object [("method", .text "certificate_chain")]
    | publicKey => .object [("method", .text "public")]
    | sign args => .object [("method", .text "sign"), ("params", Message.toValue args)]
    | encrypt args => .object [("method", .text "encrypt"), ("params", Message.toValue args)]
    | decrypt args => .object [("method", .text "decrypt"), ("params", Message.toValue args)]
  read item := tagged.readItem item

end Call

/-! ## Replies -/

/-- What a signer gives back. -/
inductive Reply where
  /-- The certificates, leaf first. -/
  | certificateChain (chain : List Bytes)
  /-- The public key. -/
  | publicKey (key : Bytes)
  /-- A signature. -/
  | signature (octets : Bytes)
  /-- Encrypted data. -/
  | ciphertext (octets : Bytes)
  /-- Decrypted data. -/
  | plaintext (octets : Bytes)
  deriving DecidableEq, Repr

namespace Reply

/-- The kinds of replies. -/
inductive Tag where
  | certificateChain | publicKey | signature | ciphertext | plaintext
  deriving DecidableEq, Repr

namespace Tag

/-- The kinds by the names that messages use. -/
def names : List (String × Tag) :=
  [("certificate_chain", certificateChain), ("public", publicKey), ("signature", signature),
    ("ciphertext", ciphertext), ("plaintext", plaintext)]

/-- The name that people read. -/
def name : Tag → String
  | certificateChain => "CertificateChain"
  | publicKey => "Public"
  | signature => "Signature"
  | ciphertext => "Ciphertext"
  | plaintext => "Plaintext"

end Tag

/-- The kind of a reply. -/
def tag : Reply → Tag
  | certificateChain _ => .certificateChain
  | publicKey _ => .publicKey
  | signature _ => .signature
  | ciphertext _ => .ciphertext
  | plaintext _ => .plaintext

/-- The name that people read. -/
def name (reply : Reply) : String := reply.tag.name

/-- How a reply is read. -/
def tagged : Tagged Tag Reply where
  expected := "adjacently tagged enum Reply"
  tag := "type"
  content := "value"
  names := Tag.names
  alone _ := none
  read
    | .certificateChain, item => return certificateChain (← Message.readByteList item)
    | .publicKey, item => return publicKey (← Message.readBytes item)
    | .signature, item => return signature (← Message.readBytes item)
    | .ciphertext, item => return ciphertext (← Message.readBytes item)
    | .plaintext, item => return plaintext (← Message.readBytes item)

instance : Message Reply where
  toValue
    | certificateChain chain =>
      .object [("type", .text "certificate_chain"), ("value", .list (chain.map Message.bytesValue))]
    | publicKey key => .object [("type", .text "public"), ("value", Message.bytesValue key)]
    | signature octets =>
        .object [("type", .text "signature"), ("value", Message.bytesValue octets)]
    | ciphertext octets =>
        .object [("type", .text "ciphertext"), ("value", Message.bytesValue octets)]
    | plaintext octets =>
        .object [("type", .text "plaintext"), ("value", Message.bytesValue octets)]
  read item := tagged.readItem item

end Reply

end RemoteSigner
