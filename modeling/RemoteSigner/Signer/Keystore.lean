import RemoteSigner.Config.Location
import RemoteSigner.Signer.Software

/-!
# The keystore of a configuration

The first keystore that is configured is used.  Keys in files can be used everywhere; the other
keystores are only recognized.
-/

namespace RemoteSigner.Signer

/-- Loads the key that a configuration names. -/
def loadKey (files : FileSystem) (stores : Config.Keystores) : Except Error SoftwareKey :=
  match stores.software, stores.pkcs11 with
  | some software, _ => SoftwareKey.load files software
  | none, some token => do
    let _ ← token.slotId.mapError .config
    throw (.backendUnavailable .pkcs11)
  | none, none =>
    if stores.keychain.isSome then .error (.backendUnavailable .keychain)
    else if stores.windowsStore.isSome then .error (.backendUnavailable .windowsStore)
    else .error .noBackend

/-- Loads the key that the configuration in a file names. -/
def loadConfiguredKey (files : FileSystem) (path : Bytes) : Except Error SoftwareKey := do
  let document ← (Config.Document.load files path).mapError .config
  loadKey files document.keystores

end RemoteSigner.Signer
