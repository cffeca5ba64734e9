import RemoteSigner.Config.Document
import RemoteSigner.Config.Slot
import RemoteSigner.FileSystem.File

/-!
# What can be wrong with a configuration
-/

namespace RemoteSigner.Config

/-- What can be wrong with a configuration. -/
inductive Error where
  /-- There is no configuration file, or it names no signer that could be found. -/
  | unavailable
  /-- The file can not be used; `context` completes the sentence "I/O error at the path while". -/
  | ioPath (path : Bytes) (context : String) (source : IoError)
  /-- The file is no configuration. -/
  | json (path : Bytes) (source : Json.Error)
  /-- A slot is no number. -/
  | invalidSlot (slot : String) (source : SlotFault)
  deriving DecidableEq, Repr

namespace Error

/-- The fault in words. -/
def message : Error → String
  | unavailable => "Config is unavailable"
  | ioPath path context source =>
    "I/O error at " ++ Utf8.lossy path ++ " while " ++ context ++ ":\n" ++ source.message
  | json path source => "Unable to parse config file " ++ Utf8.lossy path ++ ":\n" ++ source.message
  | invalidSlot slot source => "Invalid PKCS#11 slot " ++ Text.quote slot ++ ": " ++ source.message

/-- Whether a client may go on without a client certificate. -/
def isUnavailable : Error → Bool
  | unavailable => true
  | _ => false

end Error

/-- The slot of a token. -/
def Pkcs11.slotId (token : Pkcs11) : Except Error UInt32 :=
  (Config.slot token.slot).mapError (.invalidSlot token.slot)

end RemoteSigner.Config
