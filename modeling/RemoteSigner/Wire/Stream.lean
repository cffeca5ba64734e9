import RemoteSigner.IoError
import RemoteSigner.Octets

/-!
# Streams

A stream hands over its octets in pieces of its own choice, may fail in between, and may report
that it was interrupted, which nobody but a retry needs to know of.  `Source` and `Sink` say
everything that a stream will do, so that a statement about every behaviour of a stream is one
about every source or sink.

The octets of a source do not depend on how it is cut into pieces: see `Source.fill`.

## Main definitions

* `Source`: everything that a stream to read from will do
* `Source.fill`: so many octets, over any cuts and interruptions
* `Sink`: everything that a stream to write to will do
* `Sink.writeAll`: all of some octets, or the failure that stops them

## Main results

* `size_fillFrom_le`, `size_fillFrom_lt`: reading uses a source up
-/

namespace RemoteSigner.Wire

/-! ## Reading -/

/-- What a stream does when it is read. -/
inductive Chunk where
  /-- Octets are there; none stand for the end of the stream, as far as one read can tell. -/
  | octets (bytes : Bytes)
  /-- The read fails. -/
  | failure (error : IoError)
  deriving DecidableEq, Repr

/-- The end of a stream that is read. -/
structure Source where
  /-- What the next reads find; behind it the stream has ended. -/
  chunks : List Chunk
  /-- What closing this end fails with, if it does. -/
  closeError : Option IoError := none
  /-- Whether this end has been closed. -/
  isClosed : Bool := false
  deriving DecidableEq, Repr

/-- What filling a buffer comes to. -/
inductive Fill where
  /-- The buffer is full. -/
  | full (bytes : Bytes)
  /-- The stream ended first. -/
  | short (bytes : Bytes)
  /-- A read failed. -/
  | failed (error : IoError)
  deriving DecidableEq, Repr

namespace Fill

/-- Puts octets in front of what was read afterwards. -/
def after (bytes : Bytes) : Fill → Fill
  | full more => full (bytes ++ more)
  | short more => short (bytes ++ more)
  | failed error => failed error

end Fill

namespace Source

/-- The chunks of a source with these octets ahead of the others; nothing is left of an empty
piece. -/
def putBack (bytes : Bytes) (chunks : List Chunk) : List Chunk :=
  if bytes.isEmpty then chunks else .octets bytes :: chunks

/-- One read into a buffer of `n` octets. -/
def read (n : Nat) (source : Source) : Except IoError Bytes × Source :=
  match source.chunks with
  | [] => (.ok [], source)
  | .failure error :: rest => (.error error, { source with chunks := rest })
  | .octets bytes :: rest =>
      (.ok (bytes.take n), { source with chunks := putBack (bytes.drop n) rest })

/-- Reads until `n` octets are there, with as many reads as it takes.  An interruption is no
failure, and the same read is made again.  A piece that fits is used up; of a longer one the rest
stays. -/
def fillFrom : Nat → List Chunk → Fill × List Chunk
  | 0, chunks => (.full [], chunks)
  | _ + 1, [] => (.short [], [])
  | n + 1, .failure error :: rest =>
    if error.kind = .interrupted then fillFrom (n + 1) rest else (.failed error, rest)
  | n + 1, .octets bytes :: rest =>
    if bytes.isEmpty then (.short [], rest)
    else if (bytes.drop (n + 1)).isEmpty then
      let (fill, rest) := fillFrom (n + 1 - bytes.length) rest
      (fill.after bytes, rest)
    else (.full (bytes.take (n + 1)), .octets (bytes.drop (n + 1)) :: rest)
termination_by _ chunks => chunks.length

/-- Reads until a buffer of `n` octets is full. -/
def fill (n : Nat) (source : Source) : Fill × Source :=
  let (fill, chunks) := fillFrom n source.chunks
  (fill, { source with chunks })

/-- Reads until a read finds nothing. -/
def drainFrom (found : Bytes) : List Chunk → Except IoError Bytes × List Chunk
  | [] => (.ok found, [])
  | .failure error :: rest =>
    if error.kind = .interrupted then drainFrom found rest else (.error error, rest)
  | .octets bytes :: rest =>
      if bytes.isEmpty then (.ok found, rest) else drainFrom (found ++ bytes) rest

/-- All octets that are left. -/
def drain (source : Source) : Except IoError Bytes × Source :=
  let (result, chunks) := drainFrom [] source.chunks
  (result, { source with chunks })

/-- Closes this end. -/
def close (source : Source) : Except IoError Unit × Source :=
  (match source.closeError with | some error => .error error | none => .ok (),
   { source with isClosed := true })

/-- How much the source holds: every octet and every chunk counts. -/
def size : List Chunk → Nat
  | [] => 0
  | .octets bytes :: rest => bytes.length + 1 + size rest
  | .failure _ :: rest => 1 + size rest

theorem size_fillFrom_le (n : Nat) (chunks : List Chunk) :
    size (fillFrom n chunks).2 ≤ size chunks := by
  fun_induction fillFrom n chunks with
  | case1 => exact Nat.le_refl _
  | case2 => exact Nat.le_refl _
  | case3 n error rest _ ih => simp [size] at *; omega
  | case4 n error rest _ => simp [size]
  | case5 n bytes rest _ => simp [size]
  | case6 n bytes rest _ _ fill rest' run ih => simp_all [size]; omega
  | case7 n bytes rest _ _ => simp [size]

/-- A buffer with room is not filled for nothing. -/
theorem size_fillFrom_lt {n : Nat} {chunks : List Chunk} {bytes : Bytes} (room : 0 < n)
    (h : (fillFrom n chunks).1 = .full bytes) : size (fillFrom n chunks).2 < size chunks := by
  fun_induction fillFrom n chunks generalizing bytes with
  | case1 => omega
  | case2 => cases h
  | case3 n error rest _ ih => have := ih room h; simp [size] at *; omega
  | case4 => cases h
  | case5 => cases h
  | case6 n bytes' rest _ _ fill rest' run ih =>
    have := size_fillFrom_le (n + 1 - bytes'.length) rest
    simp_all [size]
    omega
  | case7 n bytes' rest filled _ =>
    have : 0 < bytes'.length := by cases bytes' <;> simp_all
    simp [size]
    omega

end Source

/-! ## Writing -/

/-- What a stream does when it is written to. -/
inductive Accept where
  /-- It takes at most so many octets. -/
  | upTo (n : Nat)
  /-- The write fails. -/
  | failure (error : IoError)
  deriving DecidableEq, Repr

/-- The end of a stream that is written to. -/
structure Sink where
  /-- What has been taken. -/
  written : Bytes := []
  /-- What the next writes do; behind it everything is taken. -/
  script : List Accept := []
  /-- What the next flushes fail with, where they do; behind it all succeed. -/
  flushScript : List (Option IoError) := []
  /-- How often it has been flushed. -/
  flushes : Nat := 0
  /-- What closing this end fails with, if it does. -/
  closeError : Option IoError := none
  /-- Whether this end has been closed. -/
  isClosed : Bool := false
  deriving DecidableEq, Repr

namespace Sink

/-- One write; gives how many octets were taken. -/
def write (bytes : Bytes) (sink : Sink) : Except IoError Nat × Sink :=
  match sink.script with
  | [] => (.ok bytes.length, { sink with written := sink.written ++ bytes })
  | .upTo n :: rest =>
    (.ok (min n bytes.length),
     { sink with written := sink.written ++ bytes.take n, script := rest })
  | .failure error :: rest => (.error error, { sink with script := rest })

/-- The failure of a stream that takes nothing. -/
def stuck : IoError := ⟨.writeZero, "failed to write whole buffer"⟩

/-- Writes all octets with as many writes as it takes.  Gives what was taken, how it ended and what
is left of the script.  What writes have taken stays taken, and a stream that takes nothing is not
written to forever. -/
def push : Bytes → List Accept → Bytes × Except IoError Unit × List Accept
  | [], script => ([], .ok (), script)
  | bytes, [] => (bytes, .ok (), [])
  | bytes, .failure error :: rest =>
    if error.kind = .interrupted then push bytes rest else ([], .error error, rest)
  | bytes, .upTo n :: rest =>
    if n = 0 then ([], .error stuck, rest)
    else
      let (taken, result, rest) := push (bytes.drop n) rest
      (bytes.take n ++ taken, result, rest)

/-- Writes all octets. -/
def writeAll (bytes : Bytes) (sink : Sink) : Except IoError Unit × Sink :=
  let (taken, result, script) := push bytes sink.script
  (result, { sink with written := sink.written ++ taken, script })

/-- Makes sure that nothing is held back; the attempt counts even if it fails. -/
def flush (sink : Sink) : Except IoError Unit × Sink :=
  let sink := { sink with flushes := sink.flushes + 1 }
  match sink.flushScript with
  | some error :: rest => (.error error, { sink with flushScript := rest })
  | none :: rest => (.ok (), { sink with flushScript := rest })
  | [] => (.ok (), sink)

/-- Closes this end. -/
def close (sink : Sink) : Except IoError Unit × Sink :=
  (match sink.closeError with | some error => .error error | none => .ok (),
   { sink with isClosed := true })

end Sink

end RemoteSigner.Wire
