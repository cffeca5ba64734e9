import RemoteSigner.Text.Utf8
import RemoteSigner.Wire.Message

/-!
# The configuration file

The configuration names the signer binary and the parameters of the keystores that a signer may
use.  Members that are unknown are passed over, so that a newer file can be read.

## Main definitions

* `Keystores`: the keystores that are configured
* `Document`: the whole configuration
* `Document.file`: the configuration as it stands in a file
-/

namespace RemoteSigner.Config

open Json

/-! ## Files that are named -/

/-- The binaries and libraries. -/
structure Libs where
  /-- The signer binary; empty if none is named. -/
  ecp : String := ""
  /-- The library with the foreign interface. -/
  client : Option String := none
  /-- A library that takes over TLS. -/
  tlsOffload : Option String := none
  deriving DecidableEq, Repr

namespace Libs

/-- Names that are being read. -/
structure Draft where
  ecp : Option String := none
  client : Option (Option String) := none
  tlsOffload : Option (Option String) := none

/-- How the names are read. -/
def record : Record Draft Libs where
  expected := "struct Libs"
  fields := [
    Field.of "ecp" (·.ecp) (fun draft value => { draft with ecp := some value })
      (Item.text "a string"),
    Field.of "ecp_client" (·.client) (fun draft value => { draft with client := some value })
      (Item.option (Item.text "a string")),
    Field.of "tls_offload" (·.tlsOffload)
       (fun draft value => { draft with tlsOffload := some value })
      (Item.option (Item.text "a string"))]
  empty := {}
  finish _ draft := .ok ⟨draft.ecp.getD "", draft.client.join, draft.tlsOffload.join⟩

instance : Message Libs where
  toValue libs := .object <|
    ("ecp", .text libs.ecp) ::
      (Message.optional "ecp_client" (libs.client.map Value.text) ++
        Message.optional "tls_offload" (libs.tlsOffload.map Value.text))
  read := record.read

end Libs

/-! ## Keystores -/

/-- A certificate chain and a private key in PEM files. -/
structure Software where
  /-- The file with the certificates, leaf first. -/
  certChain : String
  /-- The file with the private key. -/
  privateKey : String
  deriving DecidableEq, Repr

namespace Software

/-- Parameters that are being read. -/
structure Draft where
  certChain : Option String := none
  privateKey : Option String := none

/-- How the parameters are read. -/
def record : Record Draft Software where
  expected := "struct Software"
  fields := [
    Field.of "cert_chain" (·.certChain) (fun draft value => { draft with certChain := some value })
      (Item.text "path string"),
    Field.of "private_key" (·.privateKey)
       (fun draft value => { draft with privateKey := some value })
      (Item.text "path string")]
  empty := {}
  finish complain draft := do
    let certChain ← required complain "cert_chain" draft.certChain
    return ⟨certChain, ← required complain "private_key" draft.privateKey⟩

instance : Message Software where
  toValue software := .object
    [("cert_chain", .text software.certChain), ("private_key", .text software.privateKey)]
  read := record.read

end Software

/-- A token that is used through a PKCS #11 module. -/
structure Pkcs11 where
  /-- The slot, in hexadecimal digits. -/
  slot : String
  /-- The label of the token. -/
  label : String
  /-- The PIN of the user. -/
  userPin : String
  /-- The module, a shared library. -/
  modulePath : String
  deriving DecidableEq, Repr

namespace Pkcs11

/-- Parameters that are being read. -/
structure Draft where
  slot : Option String := none
  label : Option String := none
  userPin : Option String := none
  modulePath : Option String := none

/-- How the parameters are read. -/
def record : Record Draft Pkcs11 where
  expected := "struct Pkcs11"
  fields := [
    Field.of "slot" (·.slot) (fun draft value => { draft with slot := some value })
      (Item.text "a string"),
    Field.of "label" (·.label) (fun draft value => { draft with label := some value })
      (Item.text "a string"),
    Field.of "user_pin" (·.userPin) (fun draft value => { draft with userPin := some value })
      (Item.text "a string"),
    Field.of "module" (·.modulePath) (fun draft value => { draft with modulePath := some value })
      (Item.text "a string")]
  empty := {}
  finish complain draft := do
    let slot ← required complain "slot" draft.slot
    let label ← required complain "label" draft.label
    return ⟨slot, label, draft.userPin.getD "", ← required complain "module" draft.modulePath⟩

instance : Message Pkcs11 where
  toValue token := .object
    [("slot", .text token.slot), ("label", .text token.label), ("user_pin", .text token.userPin),
      ("module", .text token.modulePath)]
  read := record.read

end Pkcs11

/-- The keychain of macOS. -/
structure Keychain where
  /-- The issuer of the certificate. -/
  issuer : String
  deriving DecidableEq, Repr

namespace Keychain

/-- How the parameters are read. -/
def record : Record (Option String) Keychain where
  expected := "struct MacOsKeychain"
  fields := [Field.of "issuer" id (fun _ value => some value) (Item.text "a string")]
  empty := none
  finish complain issuer := return ⟨← required complain "issuer" issuer⟩

instance : Message Keychain where
  toValue keychain := .object [("issuer", .text keychain.issuer)]
  read := record.read

end Keychain

/-- The certificate store of Windows. -/
structure WindowsStore where
  /-- The issuer of the certificate. -/
  issuer : String
  /-- The name of the store. -/
  store : String
  /-- Whose store it is. -/
  provider : String
  deriving DecidableEq, Repr

namespace WindowsStore

/-- Parameters that are being read. -/
structure Draft where
  issuer : Option String := none
  store : Option String := none
  provider : Option String := none

/-- How the parameters are read. -/
def record : Record Draft WindowsStore where
  expected := "struct WindowsStore"
  fields := [
    Field.of "issuer" (·.issuer) (fun draft value => { draft with issuer := some value })
      (Item.text "a string"),
    Field.of "store" (·.store) (fun draft value => { draft with store := some value })
      (Item.text "a string"),
    Field.of "provider" (·.provider) (fun draft value => { draft with provider := some value })
      (Item.text "a string")]
  empty := {}
  finish complain draft := do
    let issuer ← required complain "issuer" draft.issuer
    let store ← required complain "store" draft.store
    return ⟨issuer, store, ← required complain "provider" draft.provider⟩

instance : Message WindowsStore where
  toValue store := .object
    [("issuer", .text store.issuer), ("store", .text store.store),
     ("provider", .text store.provider)]
  read := record.read

end WindowsStore

/-- The keystores; a signer uses the first one that is configured. -/
structure Keystores where
  /-- PEM files. -/
  software : Option Software := none
  /-- A PKCS #11 token. -/
  pkcs11 : Option Pkcs11 := none
  /-- The keychain of macOS. -/
  keychain : Option Keychain := none
  /-- The certificate store of Windows. -/
  windowsStore : Option WindowsStore := none
  deriving DecidableEq, Repr

namespace Keystores

/-- Keystores that are being read. -/
structure Draft where
  software : Option (Option Software) := none
  pkcs11 : Option (Option Pkcs11) := none
  keychain : Option (Option Keychain) := none
  windowsStore : Option (Option WindowsStore) := none

/-- How the keystores are read. -/
def record : Record Draft Keystores where
  expected := "struct CertConfigs"
  fields := [
    Field.of "software" (·.software) (fun draft value => { draft with software := some value })
      (Item.option Message.read),
    Field.of "pkcs11" (·.pkcs11) (fun draft value => { draft with pkcs11 := some value })
      (Item.option Message.read),
    Field.of "macos_keychain" (·.keychain)
       (fun draft value => { draft with keychain := some value })
      (Item.option Message.read),
    Field.of "windows_store" (·.windowsStore)
       (fun draft value => { draft with windowsStore := some value })
      (Item.option Message.read)]
  empty := {}
  finish _ draft :=
    .ok ⟨draft.software.join, draft.pkcs11.join, draft.keychain.join, draft.windowsStore.join⟩

instance : Message Keystores where
  toValue stores := .object <|
    Message.optional "software" (stores.software.map Message.toValue) ++
      Message.optional "pkcs11" (stores.pkcs11.map Message.toValue) ++
      Message.optional "macos_keychain" (stores.keychain.map Message.toValue) ++
      Message.optional "windows_store" (stores.windowsStore.map Message.toValue)
  read := record.read

end Keystores

/-! ## The whole file -/

/-- The contents of a configuration file. -/
structure Document where
  /-- The binaries and libraries. -/
  libs : Libs := {}
  /-- The keystores. -/
  keystores : Keystores := {}
  deriving DecidableEq, Repr

namespace Document

/-- Contents that are being read. -/
structure Draft where
  libs : Option Libs := none
  keystores : Option Keystores := none

/-- How the contents are read. -/
def record : Record Draft Document where
  expected := "struct CertificateConfig"
  fields := [
    Field.of "libs" (·.libs) (fun draft value => { draft with libs := some value }) Message.read,
    Field.of "cert_configs" (·.keystores)
       (fun draft value => { draft with keystores := some value })
      Message.read]
  empty := {}
  finish _ draft := .ok ⟨draft.libs.getD {}, draft.keystores.getD {}⟩

instance : Message Document where
  toValue document := .object
    [("libs", Message.toValue document.libs), ("cert_configs", Message.toValue document.keystores)]
  read := record.read

/-- A configuration that names a signer binary and keystores; what is no text in the path is
replaced. -/
def ofSigner (signer : Bytes) (keystores : Keystores) : Document :=
  ⟨{ ecp := Utf8.lossy signer }, keystores⟩

/-- The octets of the file: one member a line. -/
def file (document : Document) : Bytes := (Message.toValue document).pretty

end Document

end RemoteSigner.Config
