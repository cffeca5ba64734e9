import RemoteSigner.Wire.Service

/-!
# The echo signer

A signer without a private key, to try clients with: a signature is the digest itself, and to
encrypt and to decrypt is to turn over every bit.
-/

namespace RemoteSigner

/-- A signer without a private key. -/
structure EchoSigner where
  /-- The only certificate of its chain. -/
  certificate : Bytes
  /-- The public key. -/
  publicKey : Bytes
  deriving DecidableEq, Repr

namespace EchoSigner

/-- The octets with every bit turned over. -/
def invert (bytes : Bytes) : Bytes := bytes.map (~~~·)

/-- Answers a request. -/
def handle (signer : EchoSigner) (request : Request) : Response :=
  if request.version ≠ protocolVersion then
    .failed request.id
      ("Unsupported protocol version " ++ request.version.toNat.repr ++
        ", expected " ++ protocolVersion.toNat.repr)
  else match request.call with
    | .certificateChain => .ok request.id (.certificateChain [signer.certificate])
    | .publicKey => .ok request.id (.publicKey signer.publicKey)
    | .sign args =>
      let expected := (args.effectiveOpts.map (·.algorithm.size)).getD args.digest.length
      if args.digest.length = expected then .ok request.id (.signature args.digest)
      else
        .failed request.id
          ("Digest length of " ++ args.digest.length.repr ++
            " bytes does not match Hash function size of " ++
            expected.repr ++ " bytes")
    | .encrypt args => .ok request.id (.ciphertext (invert args.data))
    | .decrypt args => .ok request.id (.plaintext (invert args.data))

/-- Answers requests until the client has finished. -/
def serve (signer : EchoSigner) (t : Wire.Transport) : Except Wire.Error Unit × Wire.Transport :=
  Id.run (t.serve fun request => pure (signer.handle request))

end EchoSigner

end RemoteSigner
