import RemoteSigner.Wire.Transport

/-!
# Connections

A client numbers its requests and sends one only after the response to the previous one has come,
or has failed to come.  The number is used up even if the request can not be sent.

## Main definitions

* `Connection.call`: one request and its response
* `certificateChain`, `publicKey`, `sign`, `encrypt`, `decrypt`: a call and the reply it wants
-/

namespace RemoteSigner.Wire

/-- The client's side of a session with a signer. -/
structure Connection where
  /-- The streams to and from the signer. -/
  transport : Transport
  /-- The number of the next request. -/
  nextId : UInt64 := 0
  deriving DecidableEq, Repr

namespace Connection

/-- Takes the reply out of a response that answers request `id`. -/
def accept (id : UInt64) (response : Response) : Except Error Reply :=
  if response.id ≠ id then .error (.unexpectedResponseId id response.id) else response.outcome

/-- Sends a call and waits for its reply.  The number of the call is used up, whatever becomes of
it. -/
def call (call : Call) (c : Connection) : Except Error Reply × Connection :=
  let id := c.nextId
  let nextId := id + 1
  match c.transport.send (Request.current id call) with
  | (.error error, transport) => (.error error, ⟨transport, nextId⟩)
  | (.ok (), transport) => match transport.receive Response with
    | (.error error, transport) => (.error error, ⟨transport, nextId⟩)
    | (.ok none, transport) => (.error .connectionClosed, ⟨transport, nextId⟩)
    | (.ok (some response), transport) => (accept id response, ⟨transport, nextId⟩)

/-- Sends a call and picks what it asked for out of the reply. -/
def request (call : Call) (pick : Reply → Option α) (c : Connection) :
    Except Error α × Connection :=
  let (result, c) := c.call call
  let picked := do
    let reply ← result
    match pick reply with
    | some value => pure value
    | none => throw (.unexpectedReply call.tag reply.tag)
  (picked, c)

/-- Asks for the certificates, leaf first. -/
def certificateChain : Connection → Except Error (List Bytes) × Connection :=
  request .certificateChain fun | .certificateChain chain => some chain | _ => none

/-- Asks for the public key. -/
def publicKey : Connection → Except Error Bytes × Connection :=
  request .publicKey fun | .publicKey key => some key | _ => none

/-- Asks for a signature. -/
def sign (args : SignArgs) : Connection → Except Error Bytes × Connection :=
  request (.sign args) fun | .signature octets => some octets | _ => none

/-- Asks for encryption. -/
def encrypt (args : EncryptArgs) : Connection → Except Error Bytes × Connection :=
  request (.encrypt args) fun | .ciphertext octets => some octets | _ => none

/-- Asks for decryption. -/
def decrypt (args : DecryptArgs) : Connection → Except Error Bytes × Connection :=
  request (.decrypt args) fun | .plaintext octets => some octets | _ => none

/-- Closes both streams. -/
def close (c : Connection) : Except IoError Unit × Connection :=
  let (result, transport) := c.transport.close
  (result, { c with transport })

end Connection

end RemoteSigner.Wire
