import RemoteSigner.Client.Key
import RemoteSigner.Proofs.Pem.RoundTrip
import RemoteSigner.Proofs.Signer.KeyFiles

/-!
# Files of sections

A file to which sections have been written can be used wherever it holds what is looked for: all
its certificates make a chain, and its first private key is the key.  So the certificates that a
client writes from a key are those that a signer reads.

## Main results

* `holdsChain_sections_iff`, `holdsKey_sections_iff`: what a file of sections holds
* `Key.readCertificates_chainFile`: written certificates are read back
-/

namespace RemoteSigner

namespace Signer

variable {files : FileSystem} {path : String} {sections : List Pem.Section}

/-- A file of sections holds the chain of all its certificates, whatever stands between them. -/
theorem holdsChain_sections_iff {chain : List Bytes}
    (stored : files (Bytes.ofText path) = .ok { bytes := sections.flatMap (·.encode) }) :
    HoldsChain files path chain ↔
      (sections.filter (·.label == .certificate)).map (·.contents) = chain ∧ chain ≠ [] := by
  constructor
  · rintro ⟨file, opened, -, held⟩
    obtain rfl := Except.ok.inj (stored.symm.trans opened)
    rwa [Pem.read_encode] at held
  · intro held
    refine ⟨_, stored, ?_⟩
    rw [Pem.read_encode]
    exact ⟨rfl, held⟩

/-- Certificates that have been written one behind the other are a chain. -/
theorem holdsChain_certificates {chain : List Bytes} (one : chain ≠ [])
    (stored : files (Bytes.ofText path) =
      .ok { bytes := chain.flatMap fun contents => Pem.Section.encode ⟨.certificate, contents⟩ }) :
    HoldsChain files path chain := by
  let written : List Pem.Section := chain.map (⟨.certificate, ·⟩)
  have joined : (chain.flatMap fun contents => Pem.Section.encode ⟨.certificate, contents⟩) =
      written.flatMap (·.encode) := (List.flatMap_map ..).symm
  have certificates : written.filter (·.label == .certificate) = written := by
    rw [List.filter_eq_self]
    intro s mem
    obtain ⟨contents, -, rfl⟩ := List.mem_map.mp mem
    rfl
  rw [joined] at stored
  refine (holdsChain_sections_iff stored).mpr ⟨?_, one⟩
  rw [certificates, List.map_map]
  exact List.map_id _

/-- A file of sections holds its first private key, whatever follows. -/
theorem holdsKey_sections_iff {key : PrivateKey}
    (stored : files (Bytes.ofText path) = .ok { bytes := sections.flatMap (·.encode) }) :
    HoldsKey files path key ↔
      sections.find? (PrivateKey.isLabel ·.label) >>= PrivateKey.ofSection? = some key := by
  rw [Option.bind_eq_bind, Option.bind_eq_some_iff]
  constructor
  · rintro ⟨file, s, opened, found, stands⟩
    obtain rfl := Except.ok.inj (stored.symm.trans opened)
    rw [Pem.read_encode] at found
    exact ⟨s, found, stands⟩
  · rintro ⟨s, found, stands⟩
    refine ⟨_, s, stored, ?_, stands⟩
    rw [Pem.read_encode]
    exact found

end Signer

namespace Client.Key

variable {key : Key} {files : FileSystem} {path : String}

/-- **The certificates that a client writes are read back**: a signer finds the chain of the key in
the file, however many octets each certificate has. -/
theorem readCertificates_chainFile (one : key.chain ≠ [])
    (stored : files (Bytes.ofText path) = .ok { bytes := key.chainFile }) :
    Signer.readCertificates files path = .ok key.chain :=
  Signer.readCertificates_eq_ok_iff.mpr (Signer.holdsChain_certificates one stored)

/-- Certificates of a full line, of one octet more and of none. -/
theorem readCertificates_chainFile_lines :
    let key : Key :=
      { chain := [List.replicate 48 0xFF, List.replicate 49 0x2D, []]
        publicKey := .rsa ⟨15, 3⟩
        publicKeyOctets := PublicKey.encode (.rsa ⟨15, 3⟩)
        child := .start { transport := {} } }
    Signer.readCertificates (fun _ => .ok { bytes := key.chainFile }) "chain.pem" =
      .ok [List.replicate 48 0xFF, List.replicate 49 0x2D, []] := by
  intro key
  have one : key.chain ≠ [] := List.cons_ne_nil _ _
  exact readCertificates_chainFile one rfl

end Client.Key

end RemoteSigner
