import RemoteSigner.FileSystem.Tree
import RemoteSigner.Program.Run

/-!
# The command line

Runs the signer on the standard streams of the process.  Octets are read until they make a frame,
which is a portion of standard input; whatever is to be decided about it is decided elsewhere.
-/

namespace RemoteSigner.CommandLine

/-! ## Files -/

/-- A failure that the system reports. -/
def failure : IO.Error → IoError
  | .noFileOrDirectory .. => Tree.missing
  | .permissionDenied .. => Tree.denied
  | .inappropriateType (some _) .. => Tree.notDirectory
  | .inappropriateType none .. => Tree.isDirectory
  | .invalidArgument (some _) .. => Tree.tooLong
  | error => ⟨.other, toString error⟩

/-- Reads a file.  A directory can be opened, but not read. -/
def readFile (path : Bytes) : IO (Except IoError File) := do
  if path.contains 0 then return .error Tree.holdsZero
  match Bytes.toText? path with
  | none => return .error Tree.missing
  | some name =>
    try return .ok { bytes := (← IO.FS.readBinFile name).toList }
    catch
      | .inappropriateType none .. => return .ok { bytes := [], failure := some Tree.isDirectory }
      | error => return .error (failure error)

/-- The files that have been read. -/
def known (files : List (Bytes × Except IoError File)) : FileSystem := fun path =>
  (files.lookup path).getD (.error Tree.missing)

/-- The files that a configuration names. -/
def namedFiles (document : Config.Document) : List Bytes :=
  match document.keystores.software with
  | some software => [Bytes.ofText software.certChain, Bytes.ofText software.privateKey]
  | none => []

/-- Reads the configuration and the files that it names. -/
def snapshot (arguments : List Bytes) : IO FileSystem := do
  match CommandLine.read arguments with
  | .error _ => return known []
  | .ok path =>
    let files := [(path, ← readFile path)]
    match Config.Document.load (known files) path with
    | .error _ => return known files
    | .ok document =>
      let more ← (namedFiles document).mapM fun path => return (path, ← readFile path)
      return known (files ++ more)

/-! ## Streams -/

/-- What becomes of an attempt. -/
def attempt (action : IO α) : IO (Except IoError α) := do
  try return .ok (← action)
  catch error => return .error (failure error)

/-- Reads on until the octets make a frame.  Gives what there is to be read, and whether there may
be more behind it. -/
partial def fill (input : IO.FS.Stream) (octets : Bytes) : IO (List Wire.Chunk × Bool) := do
  let wanted := Wire.Frame.missing octets
  if wanted = 0 then return ([.octets octets], true)
  match ← attempt (input.read (USize.ofNat wanted)) with
  | .error error => return (Wire.Source.putBack octets [.failure error], false)
  | .ok more =>
    if more.isEmpty then return (Wire.Source.putBack octets [], false)
    else fill input (octets ++ more.toList)

/-- Writes octets out and flushes them.  Gives a stream that does the same as standard output. -/
def put (output : IO.FS.Stream) (octets : Bytes) : IO Wire.Sink := do
  if octets.isEmpty then return {}
  match ← attempt (output.write ⟨octets.toArray⟩) with
  | .error error => return { script := [.failure error] }
  | .ok () => match ← attempt output.flush with
    | .error error => return { flushScript := [some error] }
    | .ok () => return {}

/-- Answers a request.  What is to be written is written out before the program writes it, so that
writing it comes to the same. -/
def answer {m : Type → Type} [Monad m] (provider : Signer.Provider m)
    (put : Bytes → m Wire.Sink) (request : Request) : ConsoleT m Response := do
  let response ← Program.answer provider request
  let sink ← ConsoleT.perform (put (Wire.Frame.write response {}).2.written)
  ConsoleT.stream fun t => ((), { t with sink })
  pure response

/-- Serves frame after frame until the client has finished. -/
partial def serve (provider : Signer.Provider IO) (input output : IO.FS.Stream) :
    ConsoleT IO (Except Wire.Error Unit) := do
  let (chunks, isMore) ← fill input []
  ConsoleT.servePortion (answer provider (put output)) chunks
    (if isMore then serve provider input output else pure (.ok ()))

/-! ## Running -/

/-- A fault of the command line in words. -/
def wording : Wording := fun _ fault => match fault with
  | .displayHelp => "Serve signing calls for an enterprise certificate client."
  | .missingArgument => "error: the following required arguments were not provided: <CONFIG>"
  | .unknownArgument => "error: unexpected argument found"
  | .tooManyValues => "error: unexpected value for '--help' found; no more were expected"
  | .invalidValue => "error: a value is required for '<CONFIG>' but none was supplied"

/-- The number of the parent process; zero if the system does not tell it. -/
def parent : IO Int32 := do
  match ← attempt (IO.FS.readFile "/proc/self/stat") with
  | .error _ => return 0
  | .ok status =>
    let fields := ((status.splitOn ") ").getLastD "").splitOn " "
    return Int32.ofInt ((fields.getD 1 "").toInt?.getD 0)

/-- Runs the signer. -/
def run (arguments : List Bytes) (env : Environment) : IO Program.Run := do
  let files ← snapshot arguments
  let draw (n : Nat) : IO Bytes := return (← IO.getRandomBytes (USize.ofNat n)).toList
  let input ← IO.getStdin
  let output ← IO.getStdout
  let serveKey (key : Signer.SoftwareKey) : ConsoleT IO (Except Signer.Error Unit) := do
    Program.finish (← serve (key.provider draw) input output)
  Program.start env (Program.signer wording env.parent files arguments serveKey) {}

end RemoteSigner.CommandLine

open RemoteSigner in
/-- Runs the signer and shows its records. -/
def main (arguments : List String) : IO UInt32 := do
  let logs ← IO.getEnv "ENABLE_ENTERPRISE_CERTIFICATE_LOGS"
  let parent ← CommandLine.parent
  let run ← CommandLine.run (arguments.map Bytes.ofText) { logs := logs.map Bytes.ofText, parent }
  for record in run.records do
    IO.eprintln record.line
  return run.exitCode
