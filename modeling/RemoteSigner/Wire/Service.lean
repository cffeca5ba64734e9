import RemoteSigner.Wire.Transport

/-!
# Serving requests

Requests are answered one at a time, in the order in which they arrive, until the client closes its
end or something can not be read or written.

## Main definitions

* `Transport.serve`: answers requests until the stream ends or fails

## Main results

* `source_send`: sending leaves what will be read as it is
-/

namespace RemoteSigner.Wire.Transport

theorem source_send [Message α] (message : α) (t : Transport) :
    (t.send message).2.source = t.source := rfl

/-- Answers requests until the client has finished.  Each of them has taken something off the
source, which sending a response leaves alone. -/
def serve {m : Type → Type} [Monad m] (handle : Request → m Response) (t : Transport) :
    m (Except Error Unit × Transport) :=
  match _received : t.receive Request with
  | (.error error, t) => pure (.error error, t)
  | (.ok none, t) => pure (.ok (), t)
  | (.ok (some request), t) => do
    let response ← handle request
    match _sent : t.send response with
    | (.error error, t) => pure (.error error, t)
    | (.ok (), t) => serve handle t
termination_by Source.size t.source.chunks
decreasing_by
  rename_i before between
  have kept : t.source = between.source := by rw [← source_send response between, _sent]
  have read : Frame.read Request before.source = (.ok (some request), between.source) := by
    simp only [receive, Prod.mk.injEq] at _received
    exact Prod.ext _received.1 (congrArg Transport.source _received.2)
  rw [kept]
  exact Frame.size_read_lt read

end RemoteSigner.Wire.Transport
