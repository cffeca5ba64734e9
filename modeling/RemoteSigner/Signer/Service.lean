import RemoteSigner.Signer.Provider
import RemoteSigner.Wire.Service

/-!
# Services

A service answers requests with the help of a provider.  Every request gets a response: whatever
goes wrong becomes the text of an error.  Only requests of this version of the protocol reach the
provider, and only digests of the right length are signed.

## Main definitions

* `Provider.perform`: the reply to a call
* `Provider.handle`: the response to a request
* `Provider.serve`: responses to all requests of a stream
-/

namespace RemoteSigner.Signer.Provider

variable {m : Type → Type} [Monad m] (provider : Provider m)

/-- Signs, if the digest is as long as its hash algorithm demands. -/
def signArgs (args : SignArgs) : m (Except Error Bytes) :=
  let opts := args.effectiveOpts
  match opts with
  | none => provider.sign args.digest none
  | some effective =>
    let expected := effective.algorithm.size
    if args.digest.length ≠ expected then pure (.error (.digestLength args.digest.length expected))
    else provider.sign args.digest opts

/-- Does what a call asks for. -/
def perform (call : Call) : m (Except Error Reply) :=
  match call with
  | .certificateChain => return (← provider.certificateChain).map .certificateChain
  | .publicKey => return (← provider.publicKey).map .publicKey
  | .sign args => return (← provider.signArgs args).map .signature
  | .encrypt args => return (← provider.encrypt args.data args.hash).map .ciphertext
  | .decrypt args => return (← provider.decrypt args.data args.hash).map .plaintext

/-- Answers a request.  The call of another version may mean something else and is not looked at. -/
def handle (request : Request) : m Response := do
  if request.version ≠ protocolVersion then
    let error : Wire.Error := .unsupportedVersion request.version protocolVersion
    pure (.failed request.id error.message)
  else match ← provider.perform request.call with
    | .ok reply => pure (.ok request.id reply)
    | .error error => pure (.failed request.id error.message)

/-- Answers requests until the client has finished. -/
def serve (t : Wire.Transport) : m (Except Error Unit × Wire.Transport) := do
  let (result, t) ← t.serve provider.handle
  pure (result.mapError .wire, t)

end RemoteSigner.Signer.Provider
