import RemoteSigner.Keys.Certificate
import RemoteSigner.Proofs.Outcomes
import RemoteSigner.Signer.Keystore

/-!
# Certificates and keys in files

A key in files is loaded exactly if each of its two files can be used by itself.  Of the file with
the certificates the whole contents count: a fault anywhere in it is one.  Of the other file only
the first private key counts, whatever follows.  Nothing is compared between the two, so a private
key is loaded beside the certificates of another one, and its public key need not stand in the leaf.

## Main definitions

* `HoldsChain`, `HoldsKey`: what has to be in each of the files
* `Certificate.leafHolds`: the leaf of a chain holds a public key

## Main results

* `SoftwareKey.load_eq_ok_iff`, `loadKey_eq_ok_iff`: when a key is loaded, and what it is
* `SoftwareKey.load_exchange`: any loadable private key goes with any loadable certificates
-/

namespace RemoteSigner

/-- Whether the leaf of a chain holds a public key. -/
def Certificate.leafHolds (chain : List Bytes) (publicKey : Bytes) : Bool :=
  chain.head?.any (holds · publicKey)

namespace Pem

variable {wanted : Label → Bool} {file : File}

theorem readAll_eq_ok_iff {sections : List Section} : readAll wanted file = .ok sections ↔
    (read file).fault = none ∧ (read file).sections.filter (wanted ·.label) = sections := by
  rw [readAll]
  cases (read file).fault with
  | some fault => exact ⟨nofun, nofun⟩
  | none =>
    constructor
    · exact fun same => ⟨rfl, Except.ok.inj same⟩
    · exact fun same => congrArg _ same.2

theorem readFirst_eq_ok_iff {s : Section} : readFirst wanted file = .ok s ↔
    (read file).sections.find? (wanted ·.label) = some s := by
  rw [readFirst]
  cases (read file).sections.find? (wanted ·.label) with
  | none => exact ⟨nofun, nofun⟩
  | some found =>
    constructor
    · exact fun same => congrArg _ (Except.ok.inj same)
    · exact fun same => congrArg _ (Option.some.inj same)

end Pem

namespace Signer

variable {files : FileSystem} {path : String}

/-! ## The two files -/

/-- The file at a path has no fault, and these are its certificates; there is one at least. -/
def HoldsChain (files : FileSystem) (path : String) (chain : List Bytes) : Prop :=
  ∃ file, files (Bytes.ofText path) = .ok file ∧ (Pem.read file).fault = none ∧
    ((Pem.read file).sections.filter (·.label == .certificate)).map (·.contents) = chain ∧
      chain ≠ []

/-- The first section with a private key in the file at a path stands for this key. -/
def HoldsKey (files : FileSystem) (path : String) (key : PrivateKey) : Prop :=
  ∃ file s, files (Bytes.ofText path) = .ok file ∧
    (Pem.read file).sections.find? (PrivateKey.isLabel ·.label) = some s ∧
      PrivateKey.ofSection? s = some key

theorem openPem_eq_ok_iff {context : String} {file : File} :
    openPem files path context = .ok file ↔ files (Bytes.ofText path) = .ok file :=
  mapError_eq_ok_iff

theorem readCertificates_eq_ok_iff {chain : List Bytes} :
    readCertificates files path = .ok chain ↔ HoldsChain files path chain := by
  have checked (sections : List Pem.Section) : (do
      if sections.isEmpty then throw (Error.noCertificate path)
      return sections.map (·.contents) : Except Error (List Bytes)) = .ok chain ↔
        sections.map (·.contents) = chain ∧ chain ≠ [] := by
    cases sections with
    | nil => exact ⟨nofun, fun ⟨same, one⟩ => absurd same.symm one⟩
    | cons s sections =>
      constructor
      · intro same
        obtain rfl := Except.ok.inj same
        exact ⟨rfl, List.cons_ne_nil _ _⟩
      · exact fun same => congrArg _ same.1
  simp only [readCertificates, bind_eq_ok_iff, openPem_eq_ok_iff, mapError_eq_ok_iff,
    Pem.readAll_eq_ok_iff, checked, HoldsChain]
  constructor
  · rintro ⟨file, opened, _, ⟨faultless, rfl⟩, held⟩
    exact ⟨file, opened, faultless, held⟩
  · rintro ⟨file, opened, faultless, held⟩
    exact ⟨file, opened, _, ⟨faultless, rfl⟩, held⟩

theorem readPrivateKey_eq_ok_iff {key : PrivateKey} :
    readPrivateKey files path = .ok key ↔ HoldsKey files path key := by
  simp only [readPrivateKey, bind_eq_ok_iff, openPem_eq_ok_iff, mapError_eq_ok_iff,
    Pem.readFirst_eq_ok_iff, HoldsKey]
  constructor
  · rintro ⟨file, opened, s, found, known⟩
    split at known
    · next key' stands =>
      obtain rfl := Except.ok.inj known
      exact ⟨file, s, opened, found, stands⟩
    · cases known
  · rintro ⟨file, s, opened, found, stands⟩
    refine ⟨file, opened, s, found, ?_⟩
    rw [stands]
    rfl

/-! ## Keys -/

namespace SoftwareKey

variable {config config' : Config.Software} {software software' : SoftwareKey}

/-- **A key is loaded exactly if both files can be used**, and it is what they hold. -/
theorem load_eq_ok_iff : load files config = .ok software ↔
    HoldsChain files config.certChain software.chain ∧
      HoldsKey files config.privateKey software.key := by
  simp only [load, bind_eq_ok_iff, readCertificates_eq_ok_iff, readPrivateKey_eq_ok_iff]
  constructor
  · rintro ⟨chain, holdsChain, key, holdsKey, same⟩
    obtain rfl := Except.ok.inj same
    exact ⟨holdsChain, holdsKey⟩
  · rintro ⟨holdsChain, holdsKey⟩
    exact ⟨software.chain, holdsChain, software.key, holdsKey, rfl⟩

/-- The private key of one configuration is loaded beside the certificates of another one. -/
theorem load_exchange (loaded : load files config = .ok software)
    (loaded' : load files config' = .ok software') :
    load files ⟨config.certChain, config'.privateKey⟩ = .ok ⟨software.chain, software'.key⟩ :=
  load_eq_ok_iff.mpr ⟨(load_eq_ok_iff.mp loaded).1, (load_eq_ok_iff.mp loaded').2⟩

end SoftwareKey

/-- Keystores give a key only if it is in files. -/
theorem loadKey_eq_ok_iff {stores : Config.Keystores} {software : SoftwareKey} :
    loadKey files stores = .ok software ↔
      ∃ config, stores.software = some config ∧ SoftwareKey.load files config = .ok software := by
  obtain ⟨config | config, token, keychain, windowsStore⟩ := stores
  · constructor
    · intro loaded
      cases token with
      | none =>
        simp only [loadKey] at loaded
        split at loaded
        · cases loaded
        · split at loaded <;> cases loaded
      | some token =>
        obtain ⟨slot, -, none⟩ := bind_eq_ok_iff.mp loaded
        cases none
    · rintro ⟨config, none, -⟩
      cases none
  · constructor
    · exact fun loaded => ⟨config, rfl, loaded⟩
    · rintro ⟨config', same, loaded⟩
      cases same
      exact loaded

/-- A signer starts only with a key in files. -/
theorem loadConfiguredKey_eq_ok_iff {path : Bytes} {software : SoftwareKey} :
    loadConfiguredKey files path = .ok software ↔
      ∃ document config, Config.Document.load files path = .ok document ∧
        document.keystores.software = some config ∧
          SoftwareKey.load files config = .ok software := by
  simp only [loadConfiguredKey, bind_eq_ok_iff, mapError_eq_ok_iff, loadKey_eq_ok_iff]
  constructor
  · rintro ⟨document, read, config, loaded⟩
    exact ⟨document, config, read, loaded⟩
  · rintro ⟨document, config, read, loaded⟩
    exact ⟨document, read, config, loaded⟩

/-- The public key of a loaded private key need not stand in the leaf.  Here it is the number one on
a curve, beside a certificate that holds no key at all. -/
theorem not_leafHolds_of_loadKey :
    ¬ ∀ (files : FileSystem) (stores : Config.Keystores) (software : SoftwareKey),
      loadKey files stores = .ok software →
        Certificate.leafHolds software.chain software.key.publicKey.encode = true := by
  intro holds
  let certificate : Pem.Section := ⟨.certificate, Bytes.ofText "leaf certificate"⟩
  let one : Pem.Section :=
    ⟨.ecPrivateKey, [0x30, 0x25, 0x02, 1, 1, 0x04, 0x20] ++ List.replicate 31 0 ++ [1]⟩
  let files : FileSystem := fun path =>
    .ok { bytes := (if path = [] then certificate else one).encode }
  let stores : Config.Keystores := { software := some ⟨"", "key.pem"⟩ }
  have refuted : (loadKey files stores).toOption.all (fun software =>
      Certificate.leafHolds software.chain software.key.publicKey.encode) = false := by
    decide +kernel
  rcases loaded : loadKey files stores with error | software
  · rw [loaded] at refuted
    cases refuted
  · rw [loaded] at refuted
    have lacks : Certificate.leafHolds software.chain software.key.publicKey.encode = false :=
      refuted
    rw [holds files stores software loaded] at lacks
    cases lacks

end Signer

end RemoteSigner
