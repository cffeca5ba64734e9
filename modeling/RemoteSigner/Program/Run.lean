import RemoteSigner.Program.CommandLine
import RemoteSigner.Program.Console
import RemoteSigner.Program.Session
import RemoteSigner.Signer.Echo
import RemoteSigner.Signer.Keystore
import RemoteSigner.Signer.Service
import RemoteSigner.Text.Quoted

/-!
# Programs

A signer program loads the key that its configuration names, serves requests on its standard
streams, and ends when its client closes them.  It makes records of every step, and of every failure
the more so.

## Main definitions

* `Run`: what a run comes to
* `start`: a program in its environment
* `signer`, `runSigner`: a signer with the key that its configuration names
* `echo`, `runEcho`: a signer that gives back what it gets
-/

namespace RemoteSigner.Program

/-- How a program ended. -/
structure Run where
  /-- Standard input and output at the end. -/
  transport : Wire.Transport
  /-- Whether it ended well. -/
  succeeded : Bool
  /-- The records that were shown on standard error. -/
  records : List LogRecord
  deriving DecidableEq, Repr

/-- The exit status. -/
def Run.exitCode (run : Run) : UInt32 := if run.succeeded then 0 else 1

open ConsoleT

variable {m : Type → Type} [Monad m]

/-- Sets up logging as the environment asks for it, and does then what a program does, which gives
whether all went well.  Without a logger, the failure to set one up is shown all the same. -/
def start (env : Environment) (action : ConsoleT m Bool) (t : Wire.Transport) : m Run :=
  match Logging.setUp (.ofVariable env.logs) {} with
  | .error text => pure ⟨t, false, [⟨.error, text⟩]⟩
  | .ok logging => do
    let (succeeded, console) ← (action.run logging).run { transport := t }
    pure ⟨console.transport, succeeded, console.errors⟩

/-- What a program says that is started by hand. -/
def notForHands : String := "Signer is not meant to be invoked manually, exiting..."

/-! ## The signer -/

/-- What the signer says when it fails. -/
def signerFailed (error : Signer.Error) : String := "Signer failed: " ++ error.message

/-- The records of loading a key. -/
def loadRecords (stores : Config.Keystores) (loaded : Except Signer.Error Signer.SoftwareKey) :
    List LogRecord :=
  match stores.software, stores.pkcs11 with
  | some _, _ =>
    ⟨.debug, "Using the software keystore backend"⟩ :: match loaded with
      | .ok software =>
        [⟨.debug, "Loaded a " ++ software.key.algorithm ++ " key with a chain of " ++
          software.chain.length.repr ++ " certificates"⟩]
      | .error _ => []
  | none, some token => match token.slotId with
    | .ok slot =>
      [⟨.warning, "PKCS#11 slot 0x" ++ Text.hexadecimal slot.toNat ++ " with label " ++
        Text.quote token.label ++ " can not be opened"⟩]
    | .error _ => []
  | none, none => []

/-- Loads the key that the configuration in a file names. -/
def loadKey (files : FileSystem) (path : Bytes) :
    ConsoleT m (Except Signer.Error Signer.SoftwareKey) := do
  note .debug ("Reading enterprise certificate config " ++ Text.quotePath path)
  match (Config.Document.load files path).mapError Signer.Error.config with
  | .error error => pure (.error error)
  | .ok document =>
    let loaded := Signer.loadKey files document.keystores
    noteAll (loadRecords document.keystores loaded)
    pure loaded

/-- The record of a response to a request. -/
def answerRecord (request : Request) (response : Response) : LogRecord :=
  match response.error with
  | none => ⟨.trace, request.call.name ++ " call " ++ request.id.toNat.repr ++ " succeeded"⟩
  | some text =>
    if request.version ≠ protocolVersion then
      ⟨.warning, "Rejecting request " ++ request.id.toNat.repr ++ ": " ++ text⟩
    else ⟨.debug, request.call.name ++ " call " ++ request.id.toNat.repr ++ " failed: " ++ text⟩

/-- Answers a request. -/
def answer (provider : Signer.Provider m) (request : Request) : ConsoleT m Response := do
  let response ← perform (provider.handle request)
  let record := answerRecord request response
  note record.importance record.message
  pure response

/-- What the signer says when its client has finished. -/
def clientClosed : String := "Client closed the connection"

/-- Closes the standard streams behind a client that has finished. -/
def finish (served : Except Wire.Error Unit) : ConsoleT m (Except Signer.Error Unit) :=
  match served with
  | .error error => pure (.error (.wire error))
  | .ok () => do
    note .debug clientClosed
    let closed ← ConsoleT.close
    pure (closed.mapError (.io "closing standard input and output"))

/-- Serves requests on the standard streams until the client has finished, and closes them. -/
def serveProvider (provider : Signer.Provider m) : ConsoleT m (Except Signer.Error Unit) := do
  finish (← ConsoleT.serve (answer provider))

/-- Serves the key that a configuration names; `serve` is how that is done, and `parent` the number
of the client. -/
def runConfigured (parent : Int32) (files : FileSystem) (path : Bytes)
    (serve : Signer.SoftwareKey → ConsoleT m (Except Signer.Error Unit)) :
    ConsoleT m (Except Signer.Error Unit) := do
  match ← loadKey files path with
  | .error error => pure (.error error)
  | .ok key =>
    note .debug ("Watching parent process " ++ parent.toInt.repr)
    note .information ("Serving calls for " ++ Text.quotePath path)
    serve key

/-- Ends the signer program because of its command line, which is `complaint` in words. -/
def refuse (complaint : String) : ConsoleT m Bool := do
  note .error notForHands
  note .debug complaint
  pure false

/-- The signer program with the configuration at a path. -/
def signerAt (parent : Int32) (files : FileSystem) (path : Bytes)
    (serve : Signer.SoftwareKey → ConsoleT m (Except Signer.Error Unit)) : ConsoleT m Bool := do
  match ← runConfigured parent files path serve with
  | .error error =>
    note .error (signerFailed error)
    pure false
  | .ok () => pure true

/-- The signer program; `serve` is what it does with its key. -/
def signer (wording : CommandLine.Wording) (parent : Int32) (files : FileSystem)
    (arguments : List Bytes)
    (serve : Signer.SoftwareKey → ConsoleT m (Except Signer.Error Unit)) : ConsoleT m Bool :=
  match CommandLine.read arguments with
  | .error fault => refuse (wording arguments fault)
  | .ok path => signerAt parent files path serve

/-- Runs the signer program on its standard streams. -/
def runSigner (wording : CommandLine.Wording) (draw : Nat → m Bytes) (env : Environment)
    (files : FileSystem) (arguments : List Bytes) (t : Wire.Transport) : m Run :=
  start env
    (signer wording env.parent files arguments fun key => serveProvider (key.provider draw)) t

/-- The key that a signer with these arguments serves, if there is one. -/
def startSigner (files : FileSystem) (arguments : List Bytes) : Option Signer.SoftwareKey := do
  let path ← (CommandLine.read arguments).toOption
  (Signer.loadConfiguredKey files path).toOption

/-- The signer as a running program. -/
def signerPeer (draw : Nat → Bytes) (files : FileSystem) (arguments : List Bytes) : Peer :=
  match startSigner files arguments with
  | none => .ended
  | some key => .ofServe (Signer.Provider.serve (m := Id) (key.provider draw))

/-! ## The echo signer -/

/-- Answers a request. -/
def echoAnswer (signer : EchoSigner) (request : Request) : ConsoleT m Response := do
  note .debug ("Mock signer received a " ++ request.call.name ++ " call")
  pure (signer.handle request)

/-- The echo signer program.  It takes any one argument. -/
def echo (signer : EchoSigner) (arguments : List Bytes) : ConsoleT m Bool := do
  if arguments.length ≠ 1 then
    note .error notForHands
    pure false
  else match ← ConsoleT.serve (echoAnswer signer) with
    | .error error =>
      note .error ("Serving calls failed: " ++ error.message)
      pure false
    | .ok () => match ← ConsoleT.close with
      | .error error =>
        note .error ("Closing the transport failed: " ++ error.message)
        pure false
      | .ok () => pure true

/-- Runs the echo signer program on its standard streams. -/
def runEcho (signer : EchoSigner) (env : Environment) (arguments : List Bytes)
    (t : Wire.Transport) : Run :=
  Id.run (start env (echo signer arguments) t)

/-- The echo signer as a running program. -/
def echoPeer (signer : EchoSigner) (arguments : List Bytes) : Peer :=
  if arguments.length ≠ 1 then .ended else .ofServe signer.serve

end RemoteSigner.Program
