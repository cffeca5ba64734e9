import RemoteSigner.Wire.Connection

/-!
# Child processes

A child is a signer that a client has started.  Whoever has finished with it releases both ends of
the streams, kills the child and waits for its end; a child that nobody has waited for when it is
given up is killed and waited for then.  Every attempt is written down, so that a statement about
what happens to a child is one about its `history`.

## Main definitions

* `Process`: what starting a signer gives
* `Process.connection`: the connection to a signer at its start
* `Child`: a signer with the history of what was done to it
* `release`, `kill`, `wait`: the steps at the end of a child
* `reap`, `abandon`: what becomes of a child that goes out of scope
-/

namespace RemoteSigner

/-- A signer at its start: the streams to and from it, and how its end will go. -/
structure Process where
  /-- The streams to and from it. -/
  transport : Wire.Transport
  /-- What killing it fails with, if it does. -/
  killError : Option IoError := none
  /-- What waiting for it fails with, if it does. -/
  waitError : Option IoError := none
  deriving DecidableEq, Repr

/-- The connection to a signer at its start: its first request has the number zero. -/
def Process.connection (process : Process) : Wire.Connection := { transport := process.transport }

/-- What is done to a child at its end. -/
inductive Child.Act where
  | releaseSource | releaseSink | kill | wait
  deriving DecidableEq, Repr

/-- A signer that has been started. -/
structure Child where
  /-- The connection to it. -/
  connection : Wire.Connection
  /-- What killing it fails with, if it does. -/
  killError : Option IoError
  /-- What waiting for it fails with, if it does. -/
  waitError : Option IoError
  /-- Whether somebody still has to wait for it. -/
  isRunning : Bool := true
  /-- What has been done to it, in order. -/
  history : List Child.Act := []
  deriving DecidableEq, Repr

namespace Child

/-- A child at its start. -/
def start (process : Process) : Child where
  connection := process.connection
  killError := process.killError
  waitError := process.waitError

/-- The outcome of an attempt that may fail. -/
def outcome : Option IoError → Except IoError Unit
  | some error => .error error
  | none => .ok ()

/-! ## Streams -/

/-- Releases the end that is read. -/
def releaseSource (child : Child) : Except IoError Unit × Child :=
  let (result, source) := child.connection.transport.source.close
  (result, { child with
    connection.transport.source := source
    history := child.history ++ [.releaseSource] })

/-- Releases the end that is written. -/
def releaseSink (child : Child) : Except IoError Unit × Child :=
  let (result, sink) := child.connection.transport.sink.close
  (result, { child with
    connection.transport.sink := sink
    history := child.history ++ [.releaseSink] })

/-- Releases both ends, the second one even if releasing the first one fails, and reports the first
failure. -/
def release (child : Child) : Except IoError Unit × Child :=
  let (first, child) := child.releaseSource
  let (second, child) := child.releaseSink
  (match first with | .error error => .error error | .ok () => second, child)

/-! ## The process -/

/-- Kills a child that somebody still has to wait for. -/
def kill (child : Child) : Except IoError Unit × Child :=
  if child.isRunning then
    (outcome child.killError, { child with history := child.history ++ [.kill] })
  else (.ok (), child)

/-- Waits for the end of a child, which is over even if waiting fails. -/
def wait (child : Child) : Except IoError Unit × Child :=
  if child.isRunning then
    (outcome child.waitError, { child with
      isRunning := false
      history := child.history ++ [.wait] })
  else (.ok (), child)

/-- Kills a child that goes out of scope and waits for it, unless that has been done.  Nobody hears
of failures. -/
def reap (child : Child) : Child := if child.isRunning then child.kill.2.wait.2 else child

/-- Gives a child up together with its streams, which go first.  Nobody hears of failures. -/
def abandon (child : Child) : Child := child.releaseSource.2.releaseSink.2.reap

end Child

end RemoteSigner
