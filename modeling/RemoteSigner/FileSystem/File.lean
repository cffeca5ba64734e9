import RemoteSigner.IoError
import RemoteSigner.Octets

/-!
# Files

What a program sees of a file system: a path can be opened or not, and an open file gives octets
and may fail before its end. A `FileSystem` is any behaviour of that kind.
-/

namespace RemoteSigner

/-- A file that has been opened. -/
structure File where
  /-- What can be read. -/
  bytes : Bytes
  /-- What reading fails with behind these octets, if it does. -/
  failure : Option IoError := none
  deriving DecidableEq, Repr

/-- What opening a path comes to. -/
abbrev FileSystem := Bytes → Except IoError File

/-- Appends a relative path to the path of a directory. -/
def joinPath (directory path : Bytes) : Bytes :=
  if directory = [] then path
  else if directory.getLast? = some 0x2F then directory ++ path
  else directory ++ 0x2F :: path

end RemoteSigner
