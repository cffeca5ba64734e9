/-!
# Failures of streams and files

Somebody who handles a failure looks at its kind; somebody who reads about it sees its wording,
which comes from wherever the failure happened.
-/

namespace RemoteSigner

/-- The kinds of failures that somebody tells apart. -/
inductive IoKind where
  | notFound | interrupted | wouldBlock | brokenPipe | timedOut | unexpectedEof | writeZero | other
  deriving DecidableEq, Repr

/-- A failure of a stream or a file. -/
structure IoError where
  /-- What kind of failure it is. -/
  kind : IoKind
  /-- The failure in words. -/
  message : String
  deriving DecidableEq, Repr

end RemoteSigner
