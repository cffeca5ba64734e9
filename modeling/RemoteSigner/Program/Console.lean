import RemoteSigner.Program.Logging
import RemoteSigner.Wire.Transport

/-!
# Programs with standard streams

A program reads and writes its standard streams and makes records.  A record that is shown goes to
one of the two streams that are written to, among everything else that is written there; a logger
that shows it on standard output writes into the protocol.

## Main definitions

* `Console`: the standard streams
* `ConsoleT`: something that a program does, under some logging
* `note`: makes a record
* `serve`, `close`: what programs do with their standard input and output
* `servePortion`: what they do with a part of their input, where the rest is still to come
-/

namespace RemoteSigner

/-- The standard streams of a program. -/
structure Console where
  /-- Standard input and standard output. -/
  transport : Wire.Transport
  /-- The records that have been shown on standard error. -/
  errors : List LogRecord := []
  deriving DecidableEq, Repr

/-- The console after a record was made.  Failures to show it are ignored. -/
def Console.noted (logging : Logging) (record : LogRecord) (console : Console) : Console :=
  match logging.stream? record.importance with
  | none => console
  | some .errors => { console with errors := console.errors ++ [record] }
  | some .output =>
    let (_, sink) := console.transport.sink.writeAll (Bytes.ofText (record.line ++ "\n"))
    { console with transport.sink := sink }

/-- Something that a program does, under some logging. -/
abbrev ConsoleT (m : Type → Type) := ReaderT Logging (StateT Console m)

namespace ConsoleT

variable {m : Type → Type} [Monad m] {α : Type}

/-- Makes a record. -/
def note (importance : Importance) (message : String) : ConsoleT m Unit :=
  fun logging => modify (Console.noted logging ⟨importance, message⟩)

/-- Makes records, one after the other. -/
def noteAll (records : List LogRecord) : ConsoleT m Unit :=
  records.forM fun record => note record.importance record.message

/-- Does something that has nothing to do with the streams. -/
def perform (x : m α) : ConsoleT m α := fun _ => StateT.lift x

/-- Uses standard input and output. -/
def stream (f : Wire.Transport → α × Wire.Transport) : ConsoleT m α :=
  fun _ => modifyGet fun console =>
    let (a, transport) := f console.transport
    (a, { console with transport })

/-- Answers requests until the client has finished; `source` is what is left of standard input. -/
def serveFrom (handle : Request → ConsoleT m Response) (source : Wire.Source) :
    ConsoleT m (Except Wire.Error Unit) :=
  match _received : Wire.Frame.read Request source with
  | (.error error, rest) => do
    stream fun t => ((), { t with source := rest })
    pure (.error error)
  | (.ok none, rest) => do
    stream fun t => ((), { t with source := rest })
    pure (.ok ())
  | (.ok (some request), rest) => do
    stream fun t => ((), { t with source := rest })
    let response ← handle request
    match ← stream (Wire.Transport.send response) with
    | .error error => pure (.error error)
    | .ok () => serveFrom handle rest
termination_by Wire.Source.size source.chunks
decreasing_by exact Wire.Frame.size_read_lt _received

/-- Answers requests on standard input until the client has finished. -/
def serve (handle : Request → ConsoleT m Response) : ConsoleT m (Except Wire.Error Unit) := do
  let source ← stream fun t => (t.source, t)
  serveFrom handle source

/-- Answers the requests on some more of standard input, and then goes on if nothing fails. -/
def servePortion (handle : Request → ConsoleT m Response) (chunks : List Wire.Chunk)
    (next : ConsoleT m (Except Wire.Error Unit)) : ConsoleT m (Except Wire.Error Unit) := do
  stream fun t => ((), { t with source.chunks := chunks })
  match ← serve handle with
  | .error error => pure (.error error)
  | .ok () => next

/-- Makes a record of a failure, if there is one. -/
def noteFailure (what : String) : Except IoError Unit → ConsoleT m Unit
  | .error error => note .warning (what ++ ": " ++ error.message)
  | .ok () => pure ()

/-- Closes standard input and output, the second one even if closing the first one fails, and
reports the first failure. -/
def close : ConsoleT m (Except IoError Unit) := do
  let first ← stream fun t =>
    let (result, source) := t.source.close
    (result, { t with source })
  noteFailure "Closing the read end of the transport failed" first
  let second ← stream fun t =>
    let (result, sink) := t.sink.close
    (result, { t with sink })
  noteFailure "Closing the write end of the transport failed" second
  pure (match first with | .error error => .error error | .ok () => second)

end ConsoleT

end RemoteSigner
