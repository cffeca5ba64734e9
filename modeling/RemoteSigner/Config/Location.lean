import RemoteSigner.Config.Error

/-!
# Where the configuration is, and what it points to

An explicit path wins over the environment, and the environment over the default place below the
home directory.  The path of the signer binary may begin with the home directory in one of three
spellings.
-/

namespace RemoteSigner

/-- What a program takes from its environment. -/
structure Environment where
  /-- The variable `HOME`. -/
  home : Option Bytes := none
  /-- The variable `GOOGLE_API_CERTIFICATE_CONFIG`. -/
  configPath : Option Bytes := none
  /-- The variable `ENABLE_ENTERPRISE_CERTIFICATE_LOGS`. -/
  logs : Option Bytes := none
  /-- The home directory according to the user database. -/
  userHome : Option Bytes := none
  /-- The number of the process that has started this one. -/
  parent : Int32 := 0
  deriving DecidableEq, Repr

namespace Config

/-- A variable that is empty counts as unset. -/
def nonEmpty (value : Option Bytes) : Option Bytes := value.filter (· != [])

/-- The home directory. -/
def homeDirectory (env : Environment) : Option Bytes := (nonEmpty env.home).or env.userHome

/-- The directory of the configuration file, below the home directory. -/
def directoryName : Bytes := Bytes.ofText ".config/gcloud"

/-- The name of the configuration file. -/
def fileName : Bytes := Bytes.ofText "certificate_config.json"

/-- The directory that holds the configuration file by default. -/
def defaultDirectory (env : Environment) : Bytes :=
  joinPath ((homeDirectory env).getD []) directoryName

/-- The configuration file that is used by default. -/
def defaultFile (env : Environment) : Bytes := joinPath (defaultDirectory env) fileName

/-- The configuration file to use. -/
def resolvePath (env : Environment) (explicit : Option Bytes) : Bytes :=
  ((nonEmpty explicit).or (nonEmpty env.configPath)).getD (defaultFile env)

/-! ## The signer binary -/

/-- The spellings of the home directory at the beginning of a path. -/
def homeMarks : List Bytes := [Bytes.ofText "~", Bytes.ofText "$HOME", Bytes.ofText "HOME"]

/-- What follows the first mark that the path begins with. -/
def afterHomeMark? (path : Bytes) : Option Bytes :=
  (homeMarks.find? (·.isPrefixOf path)).map fun mark => path.drop mark.length

/-- The path with the home directory in place of its mark. -/
def expandHome (home : Option Bytes) (path : Bytes) : Except Error Bytes :=
  match afterHomeMark? path with
  | none => .ok path
  | some rest => match home with
    | some home => .ok (home ++ rest)
    | none => .error .unavailable

/-- The signer binary that a configuration names. -/
def Document.signerBinary (document : Document) (env : Environment) : Except Error Bytes :=
  if document.libs.ecp = "" then .error .unavailable
  else expandHome (homeDirectory env) (Bytes.ofText document.libs.ecp)

/-! ## Reading the file -/

/-- The configuration in an open file. -/
def Document.ofFile (path : Bytes) (file : File) : Except Error Document :=
  let origin := match file.failure with
    | none => .stream
    | some error => .broken error.message
  (Message.decode Document origin file.bytes).mapError (.json path)

/-- The configuration in the file at a path. -/
def Document.load (files : FileSystem) (path : Bytes) : Except Error Document :=
  match files path with
  | .ok file => Document.ofFile path file
  | .error error =>
    if error.kind = .notFound then .error .unavailable
    else .error (.ioPath path "opening the config file" error)

/-- The signer binary that the file at a path names. -/
def loadSignerBinary (files : FileSystem) (env : Environment) (path : Bytes) :
    Except Error Bytes := do
  (← Document.load files path).signerBinary env

end Config

end RemoteSigner
