import RemoteSigner.Wire.Frame

/-!
# Transports

Two streams of one direction each make one of both directions.
-/

namespace RemoteSigner.Wire

/-- A stream to read from and a stream to write to. -/
structure Transport where
  /-- The end that is read. -/
  source : Source := { chunks := [] }
  /-- The end that is written. -/
  sink : Sink := {}
  deriving DecidableEq, Repr

namespace Transport

/-- One read. -/
def read (n : Nat) (t : Transport) : Except IoError Bytes × Transport :=
  let (result, source) := t.source.read n
  (result, { t with source })

/-- One write. -/
def write (bytes : Bytes) (t : Transport) : Except IoError Nat × Transport :=
  let (result, sink) := t.sink.write bytes
  (result, { t with sink })

/-- Flushes what has been written. -/
def flush (t : Transport) : Except IoError Unit × Transport :=
  let (result, sink) := t.sink.flush
  (result, { t with sink })

/-- Sends a message. -/
def send [Message α] (message : α) (t : Transport) : Except Error Unit × Transport :=
  let (result, sink) := Frame.write message t.sink
  (result, { t with sink })

/-- Receives a message; nothing if the other side has finished. -/
def receive (α : Type) [Message α] (t : Transport) : Except Error (Option α) × Transport :=
  let (result, source) := Frame.read α t.source
  (result, { t with source })

/-- Closes both ends, the second one even if closing the first one fails, and reports the first
failure. -/
def close (t : Transport) : Except IoError Unit × Transport :=
  let (first, source) := t.source.close
  let (second, sink) := t.sink.close
  (match first with | .error error => .error error | .ok () => second, ⟨source, sink⟩)

end Transport

end RemoteSigner.Wire
