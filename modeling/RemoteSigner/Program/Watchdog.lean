/-!
# The watchdog

A signer whose client has died is adopted by another process, at last by the first one.
-/

namespace RemoteSigner.Watchdog

/-- The process that adopts orphans. -/
def initProcess : Int32 := 1

/-- Whether the parent, which was `initial` at the start, is gone. -/
def parentIsGone (initial current : Int32) : Bool := current != initial || current == initProcess

end RemoteSigner.Watchdog
