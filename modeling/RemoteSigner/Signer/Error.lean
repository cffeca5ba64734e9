import RemoteSigner.Config.Error
import RemoteSigner.Pem.Reader
import RemoteSigner.Rsa.Error
import RemoteSigner.Wire.Error

/-!
# What can go wrong in a signer
-/

namespace RemoteSigner.Signer

/-- A kind of keystore that a signer may be asked to use. -/
inductive Backend where
  | pkcs11 | keychain | windowsStore
  deriving DecidableEq, Repr

/-- The name of a kind of keystore in a configuration. -/
def Backend.name : Backend → String
  | pkcs11 => "pkcs11"
  | keychain => "macos_keychain"
  | windowsStore => "windows_store"

/-- What keys may be unable to do. -/
inductive Operation where
  | pss | encrypt | decrypt
  deriving DecidableEq, Repr

/-- The name of an operation. -/
def Operation.name : Operation → String
  | pss => "RSASSA-PSS"
  | encrypt => "Encrypt"
  | decrypt => "Decrypt"

/-- What can go wrong in a signer. -/
inductive Error where
  /-- The configuration can not be used. -/
  | config (source : Config.Error)
  /-- A request could not be read, or a response could not be written. -/
  | wire (source : Wire.Error)
  /-- The system failed; `context` completes the sentence "I/O error while". -/
  | io (context : String) (source : IoError)
  /-- A PEM file can not be used; `context` completes the sentence "PEM error at the path while". -/
  | pem (path : String) (context : String) (source : Pem.Error)
  /-- A file has no certificate. -/
  | noCertificate (path : String)
  /-- A private key is of no kind that is known. -/
  | unsupportedKey (path : String)
  /-- An operation with an RSA key failed. -/
  | rsa (source : Rsa.Error)
  /-- A signature on a curve could not be made. -/
  | ecdsa
  /-- A public key can not be written down; none that is held in memory fails to be. -/
  | publicKey (complaint : String)
  /-- A digest has not the length that its hash algorithm gives. -/
  | digestLength (actual expected : Nat)
  /-- A salt does not fit. -/
  | saltLength (actual limit : Nat)
  /-- The key can not do what is asked for. -/
  | unsupportedOperation (operation : Operation)
  /-- The configuration names no keystore. -/
  | noBackend
  /-- The keystore that the configuration names can not be used. -/
  | backendUnavailable (backend : Backend)
  deriving DecidableEq, Repr

/-- The failure in words. -/
def Error.message : Error → String
  | config source => source.message
  | wire source => "Wire protocol error:\n" ++ source.message
  | io context source => "I/O error while " ++ context ++ ":\n" ++ source.message
  | pem path context source =>
      "PEM error at " ++ path ++ " while " ++ context ++ ": " ++ source.message
  | noCertificate path => "No certificate found in " ++ path
  | unsupportedKey path =>
      "Unsupported private key in " ++ path ++ ", expected an RSA, P-256 or P-384 key"
  | rsa source => "RSA error: " ++ source.message
  | ecdsa => "ECDSA error: signature error"
  | publicKey complaint => "Public key encoding error: " ++ complaint
  | digestLength actual expected =>
    "Digest length of " ++ actual.repr ++
      " bytes does not match Hash function size of " ++ expected.repr ++ " bytes"
  | saltLength actual limit =>
    "Salt length of " ++ actual.repr ++
      " bytes exceeds the maximum of " ++ limit.repr ++ " bytes for this key"
  | unsupportedOperation operation => "The key does not support " ++ operation.name
  | noBackend => "No keystore backend is configured"
  | backendUnavailable backend =>
    "The " ++ backend.name ++ " keystore backend is not available in this build"

end RemoteSigner.Signer
