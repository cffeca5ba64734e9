import RemoteSigner.FileSystem.File

/-!
# Directory trees

A file system whose contents are known.  A path is walked component by component from the root or
from the current directory, and the first component that can not be walked decides how opening it
fails.

## Main definitions

* `Tree`: a file, a program or a directory
* `Tree.find`: what a path leads to
* `Tree.openFile`, `Tree.findProgram`: a file system and its programs
-/

namespace RemoteSigner

/-- What a directory may hold.  `π` is the type of programs. -/
inductive Tree (π : Type) where
  /-- A file that is not executable. -/
  | file (bytes : Bytes)
  /-- An executable file. -/
  | program (program : π)
  /-- A directory. -/
  | directory (entries : List (Bytes × Tree π))

namespace Tree

/-! ## Failures -/

/-- A path leads nowhere. -/
def missing : IoError := ⟨.notFound, "No such file or directory (os error 2)"⟩

/-- A file may not be executed. -/
def denied : IoError := ⟨.other, "Permission denied (os error 13)"⟩

/-- A path goes on behind a file. -/
def notDirectory : IoError := ⟨.other, "Not a directory (os error 20)"⟩

/-- A directory is read like a file. -/
def isDirectory : IoError := ⟨.other, "Is a directory (os error 21)"⟩

/-- A name or a path is too long. -/
def tooLong : IoError := ⟨.other, "File name too long (os error 36)"⟩

/-- A path that can not be given to the system. -/
def holdsZero : IoError := ⟨.other, "file name contained an unexpected NUL byte"⟩

/-! ## Walking -/

/-- How many octets a name may have. -/
def maxNameLength : Nat := 255

/-- The name of a directory in itself. -/
def selfName : Bytes := [0x2E]

/-- The name of the directory around a directory. -/
def parentName : Bytes := [0x2E, 0x2E]

/-- The components of a path between its slashes. -/
def components (path : Bytes) : List Bytes := path.splitOn 0x2F

/-- Goes from a directory to one of its components.  The nodes are those on the way from the root,
innermost first. -/
def walk : List (Tree π) → List Bytes → Except IoError (List (Tree π))
  | nodes, [] => .ok nodes
  | directory entries :: outer, name :: names =>
    if name = [] ∨ name = selfName then walk (directory entries :: outer) names
    else if name = parentName then
      walk (if outer.isEmpty then [directory entries] else outer) names
    else if maxNameLength < name.length then .error tooLong
    else match entries.lookup name with
      | some node => walk (node :: directory entries :: outer) names
      | none => .error missing
  | _, _ => .error notDirectory

/-- Finds what a path leads to, seen from the current directory; the nodes are those on the way to
it, innermost first. -/
def find (here : List (Tree π)) (path : Bytes) : Except IoError (Tree π) := do
  if path = [] then throw missing
  if 4096 ≤ path.length then throw tooLong
  let start := if path.head? = some 0x2F then here.getLast?.toList else here
  match ← walk start (components path) with
  | node :: _ => pure node
  | [] => throw missing

/-- What an executable file begins with. -/
def programHeader : Bytes := [0x7F, 0x45, 0x4C, 0x46]

/-- Opens a path for reading.  A directory can be opened, but not read. -/
def openFile (here : List (Tree π)) : FileSystem := fun path => do
  if path.contains 0 then throw holdsZero
  match ← find here path with
  | file bytes => pure { bytes }
  | program _ => pure { bytes := programHeader }
  | directory _ => pure { bytes := [], failure := some isDirectory }

/-- Looks for a program where programs are installed.  Only the two names that every directory has
are found there, and they do not stand for programs. -/
def findInstalled (name : Bytes) : Except IoError π :=
  if name = selfName ∨ name = parentName then .error denied
  else if maxNameLength < name.length then .error tooLong
  else .error missing

/-- Finds the program that a path leads to.  A name without a slash is looked for where programs
are installed. -/
def findProgram (here : List (Tree π)) (path : Bytes) : Except IoError π := do
  if path.contains 0 then throw ⟨.other, "nul byte found in provided data"⟩
  if !path.contains 0x2F then findInstalled path
  else
    match ← find here path with
    | program p => pure p
    | _ => throw denied

/-- Puts a node at the end of a path of names, with the directories on the way. -/
def insert (node : Tree π) : List Bytes → List (Bytes × Tree π) → List (Bytes × Tree π)
  | [], entries => entries
  | [name], entries => (name, node) :: entries
  | name :: names, entries =>
    let inner := match entries.lookup name with
      | some (directory inner) => inner
      | _ => []
    (name, directory (insert node names inner)) :: entries

end Tree

end RemoteSigner
