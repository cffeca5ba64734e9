import Mathlib.NumberTheory.LucasLehmer
import RemoteSigner.Proofs.Client.Identity
import RemoteSigner.Proofs.Keys.PrivateKey
import RemoteSigner.Proofs.Signer.WrittenFiles

/-!
# Keys on which a signer and its client agree

A signer loads every key on a curve and every RSA key whose numbers fit together, and a client takes
the public keys of these, with one exception: it takes no RSA key with a modulus of more than 4096
bits.  A signer serves such a key all the same, and every client that opens it is told that its
algorithm is not supported.

## Main definitions

* `Reception`: what the calls at the start can come to where the key has been loaded
* `wideKey`: a key with a modulus of 4484 bits

## Main results

* `load_rsa`: RSA keys of any size are loaded
* `reception_of_load`: which loaded keys a client takes
-/

namespace RemoteSigner.Client

open Signer Wire

/-- What the calls at the start can come to where the key has been loaded from files: a call fails,
or it depends on the modulus. -/
inductive Reception (software : SoftwareKey) : Except Error Identity → Prop
  /-- A call fails. -/
  | failed (operation : Call.Tag) (error : Wire.Error) :
      Reception software (.error (.call operation error))
  /-- The modulus has more than 4096 bits. -/
  | refused (wide : software.key.isWide = true) :
      Reception software (.error (.unsupportedPublicKey "1.2.840.113549.1.1.1"))
  /-- Any other key is taken as what it is. -/
  | taken (narrow : software.key.isWide = false) :
      Reception software
        (.ok ⟨software.chain, software.key.publicKey, software.key.publicKey.encode⟩)

variable {files : FileSystem} {config : Config.Software} {software : SoftwareKey}

/-- The public key of a loaded key is read back, unless its modulus has more than 4096 bits. -/
theorem decode_of_load (loaded : SoftwareKey.load files config = .ok software) :
    PublicKey.decode software.key.publicKey.encode =
      if software.key.isWide then .error (.unsupported rsaIdentifier)
      else .ok software.key.publicKey := by
  obtain ⟨-, -, s, -, -, stands⟩ := SoftwareKey.load_eq_ok_iff.mp loaded
  exact PrivateKey.decode_publicKey stands

/-- What a linked client is told is what the provider holds, so only the modulus is left open. -/
theorem reception_of_linked {draw : Nat → Id Bytes} {c : Connection} {service : Transport}
    {others : List Call} (loaded : SoftwareKey.load files config = .ok software)
    (linked : Linked (software.provider draw) (openingCalls ++ others) c service) :
    Reception software (handshake c).1 := by
  have decoded := decode_of_load loaded
  obtain ⟨⟨-, -, -, -, one⟩, -⟩ := SoftwareKey.load_eq_ok_iff.mp loaded
  rw [handshake_fst]
  rcases told : c.certificateChain.1 with error | chain
  · exact .failed .certificateChain error
  obtain rfl : software.chain = chain := Except.ok.inj (chain_of_linked linked told)
  rw [acceptChain_eq_ok_iff.mpr ⟨rfl, one⟩]
  rcases keyTold : c.certificateChain.2.publicKey.1 with error | octets
  · exact .failed .publicKey error
  obtain rfl : software.key.publicKey.encode = octets :=
    Except.ok.inj (publicKey_of_linked linked keyTold)
  cases width : software.key.isWide with
  | true =>
    rw [width, if_pos rfl] at decoded
    have named : rsaIdentifier.text = "1.2.840.113549.1.1.1" := by decide +kernel
    rw [acceptKey_of_unsupported decoded, named]
    exact .refused width
  | false =>
    rw [width, if_neg Bool.false_ne_true] at decoded
    rw [acceptKey_eq_ok_iff.mpr ⟨rfl, decoded⟩]
    exact .taken width

/-- **Which loaded keys a client takes**: the public key that a signer tells of a key that it has
loaded is read as the same key, and a client that is linked to the signer is refused only if a call
fails; but if the modulus of the key has more than 4096 bits, the key is never taken. -/
theorem reception_of_load (loaded : SoftwareKey.load files config = .ok software)
    (draw : Nat → Id Bytes) :
    ∃ octets, (software.provider draw).publicKey = .ok octets ∧
      PublicKey.decode octets =
        (if software.key.isWide then .error (.unsupported rsaIdentifier)
          else .ok software.key.publicKey) ∧
      ∀ (c : Connection) (service : Transport) (others : List Call),
        Linked (software.provider draw) (openingCalls ++ others) c service →
          Reception software (handshake c).1 :=
  ⟨software.key.publicKey.encode, rfl, decode_of_load loaded,
    fun _ _ _ linked => reception_of_linked loaded linked⟩

/-- The number one on a curve: it is loaded, and a client that is linked to its signer takes it.
The calls at the start are run to see that they succeed; what they give follows from that. -/
theorem reception_of_load_one :
    let one : PrivateKey := .ecdsa .p256 1 Curve.p256.generator
    let software : SoftwareKey := ⟨[[]], one⟩
    let certificate : Pem.Section := ⟨.certificate, []⟩
    let secret : Pem.Section :=
      ⟨.ecPrivateKey, [0x30, 0x25, 0x02, 1, 1, 0x04, 0x20] ++ List.replicate 31 0 ++ [1]⟩
    let files : FileSystem := fun path =>
      .ok { bytes := (if path = [] then certificate else secret).encode }
    let draw (_ : Nat) : Id Bytes := pure []
    let responses := Frame.framesOf (sentResponses (software.provider draw) 0 openingCalls)
    let c : Connection := { transport := { source := { chunks := [.octets responses] } } }
    SoftwareKey.load files ⟨"", "key.pem"⟩ = .ok software ∧
      PublicKey.decode one.publicKey.encode = .ok one.publicKey ∧
      (handshake c).1 = .ok ⟨[[]], one.publicKey, one.publicKey.encode⟩ := by
  intro one software certificate secret files draw responses c
  have loaded : SoftwareKey.load files ⟨"", "key.pem"⟩ = .ok software := by decide +kernel
  have succeeds : (handshake c).1.isOk = true := by decide +kernel
  have answered : responses ≠ [] := by decide +kernel
  have answers : c.transport.source.Delivers responses := by
    refine ⟨?_, List.append_nil responses⟩
    intro chunk mem
    rw [List.mem_singleton.mp mem]
    exact answered
  have patient : c.transport.sink.Patient := Sink.patient_of_nil rfl rfl
  obtain ⟨service, linked⟩ := exists_service patient answers
  rw [← List.append_nil openingCalls] at linked
  obtain ⟨octets, told, decoded, received⟩ := reception_of_load loaded draw
  obtain rfl : one.publicKey.encode = octets := Except.ok.inj told
  refine ⟨loaded, decoded, ?_⟩
  have outcome := received c service [] linked
  generalize (handshake c).1 = result at outcome succeeds
  cases outcome with
  | failed => cases succeeds
  | refused => cases succeeds
  | taken => rfl

/-- **RSA keys of any size are loaded**, if their numbers fit together. -/
theorem load_rsa {chain : List Bytes} {key : Rsa.PrivateKey} (one : chain ≠ [])
    (consistent : key.isConsistent = true) (short : key.encode.length < Der.maxContents)
    (storedChain : files (Bytes.ofText config.certChain) =
      .ok { bytes := chain.flatMap fun contents => Pem.Section.encode ⟨.certificate, contents⟩ })
    (storedKey : files (Bytes.ofText config.privateKey) =
      .ok { bytes := Pem.Section.encode ⟨.rsaPrivateKey, key.encode⟩ }) :
    SoftwareKey.load files config = .ok ⟨chain, .rsa key⟩ := by
  have alone : Pem.Section.encode ⟨.rsaPrivateKey, key.encode⟩ =
      [(⟨.rsaPrivateKey, key.encode⟩ : Pem.Section)].flatMap (·.encode) :=
    (List.flatMap_singleton ..).symm
  rw [alone] at storedKey
  refine SoftwareKey.load_eq_ok_iff.mpr
    ⟨holdsChain_certificates one storedChain, (holdsKey_sections_iff storedKey).mpr ?_⟩
  have found : [(⟨.rsaPrivateKey, key.encode⟩ : Pem.Section)].find? (PrivateKey.isLabel ·.label) =
      some ⟨.rsaPrivateKey, key.encode⟩ := rfl
  have stands : PrivateKey.ofSection? ⟨.rsaPrivateKey, key.encode⟩ =
      (Rsa.PrivateKey.decode? key.encode).map .rsa := rfl
  rw [found, Option.bind_eq_bind, Option.bind_some, stands,
    Rsa.PrivateKey.decode?_encode consistent short]
  rfl

/-- A key that is made of two Mersenne primes, with a modulus of 4484 bits. -/
def wideKey : Rsa.PrivateKey where
  modulus := mersenne 2203 * mersenne 2281
  exponent := 65537
  privateExponent := (33256 * ((mersenne 2203 - 1) * (mersenne 2281 - 1)) + 1) / 65537
  p := mersenne 2203
  q := mersenne 2281

theorem wideKey_madeOfPrimes : wideKey.MadeOfPrimes where
  consistent := by decide +kernel
  p := lucas_lehmer_sufficiency 2203 (by decide) (by norm_num)
  q := lucas_lehmer_sufficiency 2281 (by decide) (by norm_num)
  apart := by decide +kernel

/-- Some keys are loaded whose public keys no client takes. -/
theorem not_decode_of_load :
    ¬ ∀ (files : FileSystem) (config : Config.Software) (software : SoftwareKey),
      SoftwareKey.load files config = .ok software →
        PublicKey.decode software.key.publicKey.encode = .ok software.key.publicKey := by
  intro taken
  let certificate : Pem.Section := ⟨.certificate, []⟩
  let wide : Pem.Section := ⟨.rsaPrivateKey, wideKey.encode⟩
  let files : FileSystem := fun path =>
    .ok { bytes := (if path = [] then certificate else wide).encode }
  have short : wideKey.encode.length < Der.maxContents := by decide +kernel
  have alone : ([[]] : List Bytes).flatMap
      (fun contents => Pem.Section.encode ⟨.certificate, contents⟩) = certificate.encode :=
    List.flatMap_singleton ..
  have loaded : SoftwareKey.load files ⟨"", "key.pem"⟩ = .ok ⟨[[]], .rsa wideKey⟩ := by
    apply load_rsa (List.cons_ne_nil _ _) wideKey_madeOfPrimes.consistent short
    · rw [alone]
      rfl
    · rfl
  have isWide : (PrivateKey.rsa wideKey).isWide = true := by decide +kernel
  have refused := decode_of_load loaded
  rw [taken files _ _ loaded, if_pos isWide] at refused
  cases refused

end RemoteSigner.Client
