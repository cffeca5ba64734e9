import RemoteSigner.Wire.Request
import RemoteSigner.Wire.Stream

/-!
# Frames

On a stream, every message is preceded by its length in four octets.  A frame that announces more
than `maxLength` octets is refused before its body is read, and a message that would need more is
refused before anything is written.

## Main definitions

* `encode`, `write`: a message with its length in front
* `read`: the next message, nothing at the end of the stream, or a failure
* `first`, `missing`: the first frame of some octets, and what it still lacks

## Main results

* `size_read_lt`: every message uses its source up
-/

namespace RemoteSigner.Wire.Frame

/-- How many octets a message may have. -/
def maxLength : Nat := 16 * 1024 * 1024

/-- How many octets stand in front of a message. -/
def headerLength : Nat := 4

/-- The frame of a message. -/
def encode (body : Bytes) : Bytes := Bytes.ofNatural headerLength body.length ++ body

/-- The first frame in a stream of octets. -/
def first (octets : Bytes) : Bytes :=
  octets.take (headerLength + Bytes.toNatural (octets.take headerLength))

/-- How many octets are wanted next to complete the first frame in a stream; none if it is
complete, or if it will be refused. -/
def missing (octets : Bytes) : Nat :=
  if octets.length < headerLength then headerLength - octets.length
  else
    let length := Bytes.toNatural (octets.take headerLength)
    if maxLength < length then 0 else headerLength + length - octets.length

/-- Writes a message as one frame and flushes it.  One that is too long is refused before anything
is written, so the stream can still be used. -/
def write [Message α] (message : α) (sink : Sink) : Except Error Unit × Sink :=
  let body := Message.encode message
  if maxLength < body.length then (.error (.frameTooLarge body.length maxLength), sink)
  else
    match sink.writeAll (encode body) with
    | (.error error, sink) => (.error (.io "writing a frame" error), sink)
    | (.ok (), sink) => match sink.flush with
      | (.error error, sink) => (.error (.io "flushing a frame" error), sink)
      | (.ok (), sink) => (.ok (), sink)

/-- The failure of a stream that ends within a header. -/
def endInHeader : IoError := ⟨.unexpectedEof, "unexpected end of file"⟩

/-- The failure of a stream that ends within a message. -/
def endInBody : IoError := ⟨.unexpectedEof, "failed to fill whole buffer"⟩

/-- Reads a message of `length` octets. -/
def readBody (α : Type) [Message α] (length : Nat) (source : Source) : Except Error α × Source :=
  match source.fill length with
  | (.failed error, source) => (.error (.io "reading a frame body" error), source)
  | (.short _, source) => (.error (.io "reading a frame body" endInBody), source)
  | (.full body, source) => match Message.decode α .memory body with
    | .ok message => (.ok message, source)
    | .error error => (.error (.serialization error), source)

/-- Reads the next message; nothing if the stream ends in front of it, which is the one place where
it may end.  The body of a frame that is too long is not waited for, and no room is made for it. -/
def read (α : Type) [Message α] (source : Source) : Except Error (Option α) × Source :=
  match source.fill headerLength with
  | (.failed error, source) => (.error (.io "reading a frame header" error), source)
  | (.short [], source) => (.ok none, source)
  | (.short _, source) => (.error (.io "reading a frame header" endInHeader), source)
  | (.full header, source) =>
    let length := header.toNatural
    if maxLength < length then (.error (.frameTooLarge length maxLength), source)
    else
      let (result, source) := readBody α length source
      (result.map some, source)

theorem size_readBody_le {α : Type} [Message α] (length : Nat) (source : Source) :
    Source.size (readBody α length source).2.chunks ≤ Source.size source.chunks := by
  have h := Source.size_fillFrom_le length source.chunks
  unfold readBody
  cases run : Source.fillFrom length source.chunks with
  | mk fill chunks =>
    rw [run] at h
    simp only [Source.fill, run]
    cases fill with
    | failed error => exact h
    | short bytes => exact h
    | full body => simp only; split <;> exact h

/-- Reading a message takes something off the stream. -/
theorem size_read_lt {α : Type} [Message α] {source rest : Source} {message : α}
    (h : read α source = (.ok (some message), rest)) :
    Source.size rest.chunks < Source.size source.chunks := by
  unfold read at h
  cases run : Source.fillFrom headerLength source.chunks with
  | mk fill chunks =>
    simp only [Source.fill, run] at h
    cases fill with
    | failed error => simp at h
    | short bytes => cases bytes <;> simp at h
    | full header =>
      have first := Source.size_fillFrom_lt (n := headerLength) (by decide) (congrArg Prod.fst run)
      rw [run] at first
      simp only at h
      split at h
      · simp at h
      · have second := size_readBody_le (α := α) header.toNatural { source with chunks }
        simp only [Prod.mk.injEq] at h
        rw [h.2] at second
        exact Nat.lt_of_le_of_lt second first

end RemoteSigner.Wire.Frame
