import RemoteSigner.Wire.Transport

/-!
# Sessions of a client with a running program

A client is a function of everything that it will ever read, and a program answers messages.  To
put the two together, the client is run again whenever the program has answered a message, with all
answers so far, until it has sent nothing else.  A client sends a message only after it has read
the answer to the previous one, so the first message that has not been answered is not changed by
answers that are still to come; messages behind it may be.

## Main definitions

* `Peer`: a running program, seen from a client
* `session`: what a client comes to that talks to a program
-/

namespace RemoteSigner

/-- A running program, as somebody sees it who sends it octets and gets octets from it. -/
structure Peer where
  /-- What the program keeps in mind. -/
  State : Type
  /-- What it has in mind now. -/
  state : State
  /-- What it answers, and what it keeps in mind, when it is sent a message. -/
  feed : State → Bytes → Bytes × State

namespace Peer

/-- A program that has ended. -/
def ended : Peer := ⟨Unit, (), fun _ _ => ([], ())⟩

/-- A program that serves messages until serving fails. -/
def ofServe (serve : Wire.Transport → Except ε Unit × Wire.Transport) : Peer where
  State := Bool
  state := true
  feed serving octets :=
    if serving then
      let (result, t) := serve { source := { chunks := [.octets octets] } }
      (t.sink.written, result.isOk)
    else ([], false)

/-- A stream of octets that ends behind them. -/
def sourceOf (octets : Bytes) : Wire.Source :=
  { chunks := if octets.isEmpty then [] else [.octets octets] }

/-- Runs a client again and again; `sent` is how much has been answered so far, and `answers` is
what has come back. -/
def continueSession (client : Wire.Source → α × Bytes) (peer : Peer) : Nat → Nat → Bytes → α
  | 0, _, answers => (client (sourceOf answers)).1
  | fuel + 1, sent, answers =>
    let (result, octets) := client (sourceOf answers)
    let message := Wire.Frame.first (octets.drop sent)
    if message.isEmpty then result
    else
      let (answer, state) := peer.feed peer.state message
      continueSession client { peer with state } fuel (sent + message.length) (answers ++ answer)

/-- What a client comes to with a running program, if it sends at most `limit` messages.  The
client gives its result and everything that it has sent. -/
def session (client : Wire.Source → α × Bytes) (peer : Peer) (limit : Nat) : α :=
  continueSession client peer limit 0 []

end Peer

end RemoteSigner
