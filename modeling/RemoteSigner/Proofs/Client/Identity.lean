import RemoteSigner.Client.Key
import RemoteSigner.FileSystem.Tree
import RemoteSigner.Proofs.Signer.KeyFiles
import RemoteSigner.Proofs.Wire.Transparency

/-!
# What a key is told by its signer

A client that opens a key asks its signer for the certificates and for the public key.  If it is
linked to a service, and the key could be opened, these are the ones that the provider has, so they
are those in the files that the configuration names.  Neither side compares them: the leaf of the
opened key holds its public key exactly if the first certificate in the one file holds the public
key that belongs to the other.

## Main definitions

* `openingCalls`: the calls to which a key is opened
* `Host.ServesConfigured`: signers serve the key that their configuration names

## Main results

* `handshake_eq_ok_iff`: when the calls give an identity
* `identity_of_linked`: the identity is that of the provider
* `openKey_eq_ok_iff`: when a key is opened, and what it is
* `openKey_leafHolds_iff`: an opened key and the files of its configuration
-/

namespace RemoteSigner

open Wire

/-- A call succeeds only with the reply that the provider gives. -/
theorem Wire.Transparent.direct_of_ok {provider : Signer.Provider Id} {id : UInt64}
    {calls : List Call} {k : Nat} {call : Call} {c : Connection}
    (gives : Transparent provider id calls k call c) {reply : Reply}
    (ok : (c.invoke call).1 = .ok reply) : provider.direct call = .ok reply :=
  (gives.ok_iff.mp ok).2.2

namespace Client

/-! ## The calls at the start -/

/-- The calls to which a key is opened. -/
def openingCalls : List Call := [.certificateChain, .publicKey]

theorem acceptChain_eq_ok_iff {result : Except Wire.Error (List Bytes)} {chain : List Bytes} :
    acceptChain result = .ok chain ↔ result = .ok chain ∧ chain ≠ [] := by
  rcases result with error | _ | ⟨leaf, others⟩
  · exact ⟨nofun, nofun⟩
  · constructor
    · nofun
    · rintro ⟨same, one⟩
      exact absurd (Except.ok.inj same).symm one
  · constructor
    · intro same
      obtain rfl := Except.ok.inj same
      exact ⟨rfl, List.cons_ne_nil _ _⟩
    · rintro ⟨same, -⟩
      exact congrArg _ (Except.ok.inj same)

theorem acceptKey_eq_ok_iff {result : Except Wire.Error Bytes} {key : PublicKey} {octets : Bytes} :
    acceptKey result = .ok (key, octets) ↔
      result = .ok octets ∧ PublicKey.decode octets = .ok key := by
  rw [acceptKey, bind_eq_ok_iff]
  constructor
  · rintro ⟨found, given, run⟩
    split at run
    · next decoded =>
      obtain ⟨rfl, rfl⟩ := Prod.mk.inj (Except.ok.inj run)
      exact ⟨mapError_eq_ok_iff.mp given, decoded⟩
    · cases run
    · cases run
  · rintro ⟨given, decoded⟩
    refine ⟨octets, mapError_eq_ok_iff.mpr given, ?_⟩
    rw [decoded]
    rfl

theorem acceptKey_of_malformed {octets : Bytes}
    (undecodable : PublicKey.decode octets = .error .malformed) :
    acceptKey (.ok octets) = .error (.publicKey octets) := by
  simp only [acceptKey, called, Except.mapError, bind, Except.bind, undecodable]
  rfl

/-- The algorithm of a key that is not taken is named. -/
theorem acceptKey_of_unsupported {octets : Bytes} {algorithm : Der.Identifier}
    (undecodable : PublicKey.decode octets = .error (.unsupported algorithm)) :
    acceptKey (.ok octets) = .error (.unsupportedPublicKey algorithm.text) := by
  simp only [acceptKey, called, Except.mapError, bind, Except.bind, undecodable]
  rfl

theorem handshake_fst (c : Connection) : (handshake c).1 =
    acceptChain c.certificateChain.1 >>= fun chain =>
      (acceptKey c.certificateChain.2.publicKey.1).map fun (key, octets) =>
        ⟨chain, key, octets⟩ := by
  unfold handshake
  rcases c.certificateChain with ⟨chain, c'⟩
  dsimp only
  cases acceptChain chain <;> rfl

/-- Both calls have been made where there is an identity. -/
theorem handshake_snd {c : Connection} {identity : Identity}
    (found : (handshake c).1 = .ok identity) :
    (handshake c).2 = c.certificateChain.2.publicKey.2 := by
  rw [handshake_fst] at found
  obtain ⟨chain, accepted, -⟩ := bind_eq_ok_iff.mp found
  simp only [handshake, accepted]

/-- The calls at the start give an identity exactly if both succeed, there is a certificate, and the
public key can be decoded. -/
theorem handshake_eq_ok_iff {c : Connection} {identity : Identity} :
    (handshake c).1 = .ok identity ↔
      (c.certificateChain.1 = .ok identity.chain ∧ identity.chain ≠ []) ∧
        c.certificateChain.2.publicKey.1 = .ok identity.publicKeyOctets ∧
          PublicKey.decode identity.publicKeyOctets = .ok identity.publicKey := by
  rw [← acceptChain_eq_ok_iff, ← acceptKey_eq_ok_iff, handshake_fst, bind_eq_ok_iff]
  constructor
  · rintro ⟨chain, accepted, run⟩
    obtain ⟨⟨key, octets⟩, decoded, rfl⟩ := map_eq_ok_iff.mp run
    exact ⟨accepted, decoded⟩
  · rintro ⟨accepted, decoded⟩
    exact ⟨identity.chain, accepted, map_eq_ok_iff.mpr ⟨_, decoded, rfl⟩⟩

section Linked

variable {provider : Signer.Provider Id} {c : Connection} {service : Transport} {others : List Call}

/-- The certificates that a linked client is told are those of the provider. -/
theorem chain_of_linked (linked : Linked provider (openingCalls ++ others) c service)
    {chain : List Bytes} (told : c.certificateChain.1 = .ok chain) :
    provider.certificateChain = .ok chain := by
  have first : (openingCalls ++ others)[0]? = some .certificateChain := rfl
  have reply := Connection.certificateChain_eq_ok_iff.mp told
  obtain ⟨chain', given, same⟩ := map_eq_ok_iff.mp ((linked.gives first).direct_of_ok reply)
  cases same
  exact given

/-- The public key that a linked client is told is that of the provider. -/
theorem publicKey_of_linked (linked : Linked provider (openingCalls ++ others) c service)
    {octets : Bytes} (told : c.certificateChain.2.publicKey.1 = .ok octets) :
    provider.publicKey = .ok octets := by
  have second : (openingCalls ++ others)[1]? = some .publicKey := rfl
  have reply := Connection.publicKey_eq_ok_iff.mp told
  obtain ⟨octets', given, same⟩ := map_eq_ok_iff.mp ((linked.gives second).direct_of_ok reply)
  cases same
  exact given

/-- **The identity that a linked client finds is that of the provider**, whatever it calls then. -/
theorem identity_of_linked (linked : Linked provider (openingCalls ++ others) c service)
    {identity : Identity} (found : (handshake c).1 = .ok identity) :
    provider.certificateChain = .ok identity.chain ∧
      provider.publicKey = .ok identity.publicKeyOctets := by
  obtain ⟨⟨chain, -⟩, key, -⟩ := handshake_eq_ok_iff.mp found
  exact ⟨chain_of_linked linked chain, publicKey_of_linked linked key⟩

end Linked

/-! ## Opened keys -/

/-- Wherever a signer starts, it serves the key that its configuration names, if it can be loaded:
the streams of the process lead to a service. -/
def Host.ServesConfigured (host : Host) (draw : Nat → Id Bytes) : Prop :=
  ∀ signer path process software, host.launch signer path = .ok process →
    Signer.loadConfiguredKey host.files path = .ok software →
      ∃ service, Linked (software.provider draw) openingCalls process.connection service

/-- Where one process is started, and for one configuration only, the streams of that process have
to hand over the responses to the calls at the start. -/
theorem Host.servesConfigured_of_answers {host : Host} {draw : Nat → Id Bytes} {path : Bytes}
    {process : Process} {software : Signer.SoftwareKey}
    (only : ∀ signer config started, host.launch signer config = .ok started →
      config = path ∧ started = process)
    (loaded : Signer.loadConfiguredKey host.files path = .ok software)
    (patient : process.transport.sink.Patient)
    (answers : process.transport.source.Delivers (Frame.framesOf
      (sentResponses (software.provider draw) 0 openingCalls))) :
    host.ServesConfigured draw := by
  intro signer config started software' launched loaded'
  obtain ⟨rfl, rfl⟩ := only signer config started launched
  obtain rfl := Except.ok.inj (loaded.symm.trans loaded')
  exact exists_service patient answers

/-- A key has the identity that its signer tells, and the streams behind that. -/
theorem Key.ofChild_eq_ok_iff {child : Child} {key : Key} : ofChild child = .ok key ↔
    (handshake child.connection).1 = .ok key.toIdentity ∧
      { child with connection := (handshake child.connection).2 } = key.child := by
  rw [ofChild]
  generalize handshake child.connection = told
  rcases told with ⟨error | identity, c⟩
  · exact ⟨nofun, fun both => nomatch both.1⟩
  · constructor
    · intro opened
      obtain rfl := Except.ok.inj opened
      exact ⟨rfl, rfl⟩
    · rintro ⟨told, ended⟩
      obtain rfl := Except.ok.inj told
      exact congrArg (fun child => Except.ok (Key.mk key.toIdentity child)) ended

/-- A key is opened with the signer that the configuration names, if it can be started. -/
theorem openKey_eq_ok_iff {host : Host} {explicit : Option Bytes} {key : Key} :
    openKey host explicit = .ok key ↔ ∃ signer process,
      Config.loadSignerBinary host.files host.environment
          (Config.resolvePath host.environment explicit) = .ok signer ∧
        host.launch signer (Config.resolvePath host.environment explicit) = .ok process ∧
        Key.ofChild (.start process) = .ok key := by
  constructor
  · intro opened
    rw [openKey] at opened
    split at opened
    · cases opened
    · next signer named =>
      rw [Key.spawn] at opened
      split at opened
      · cases opened
      · next process started => exact ⟨signer, process, named, started, opened⟩
  · rintro ⟨signer, process, named, started, opened⟩
    simp only [openKey, named, Key.spawn, started, opened]

/-- A key is opened only with the identity that its process gives. -/
theorem exists_process_of_openKey {host : Host} {explicit : Option Bytes} {key : Key}
    (opened : openKey host explicit = .ok key) : ∃ signer process,
      host.launch signer (Config.resolvePath host.environment explicit) = .ok process ∧
        (handshake process.connection).1 = .ok key.toIdentity := by
  obtain ⟨signer, process, -, started, ready⟩ := openKey_eq_ok_iff.mp opened
  exact ⟨signer, process, started, (Key.ofChild_eq_ok_iff.mp ready).1⟩

variable {host : Host} {draw : Nat → Id Bytes} {explicit : Option Bytes}
  {software : Signer.SoftwareKey} {key : Key}

/-- **An opened key is the one in the files that its configuration names**: its certificates are
those in the one file, its public key belongs to the private key in the other one, and its leaf
holds its public key exactly if the first of these certificates holds the second. -/
theorem openKey_leafHolds_iff (serves : host.ServesConfigured draw)
    (loaded : Signer.loadConfiguredKey host.files
      (Config.resolvePath host.environment explicit) = .ok software)
    (opened : openKey host explicit = .ok key) :
    (∃ document config, Config.Document.load host.files
        (Config.resolvePath host.environment explicit) = .ok document ∧
      document.keystores.software = some config ∧
      Signer.HoldsChain host.files config.certChain software.chain ∧
      Signer.HoldsKey host.files config.privateKey software.key) ∧
    key.chain = software.chain ∧ key.publicKeyOctets = software.key.publicKey.encode ∧
    PublicKey.decode software.key.publicKey.encode = .ok key.publicKey ∧
    ∃ leaf others, key.chain = leaf :: others ∧
      (Certificate.leafHolds key.chain key.publicKeyOctets = true ↔
        Certificate.holds leaf software.key.publicKey.encode = true) := by
  obtain ⟨signer, process, started, found⟩ := exists_process_of_openKey opened
  obtain ⟨service, linked⟩ := serves signer _ process software started loaded
  obtain ⟨chain, publicKey⟩ := identity_of_linked linked found
  obtain ⟨⟨-, one⟩, -, decoded⟩ := handshake_eq_ok_iff.mp found
  have sameChain : software.chain = key.chain := Except.ok.inj chain
  have sameKey : software.key.publicKey.encode = key.publicKeyOctets := Except.ok.inj publicKey
  obtain ⟨document, config, read, named, usable⟩ := Signer.loadConfiguredKey_eq_ok_iff.mp loaded
  obtain ⟨leaf, others, split⟩ := List.exists_cons_of_ne_nil one
  refine ⟨⟨document, config, read, named, Signer.SoftwareKey.load_eq_ok_iff.mp usable⟩,
    sameChain.symm, sameKey.symm, sameKey ▸ decoded, leaf, others, split, ?_⟩
  rw [split, sameKey]
  rfl

/-- The number one on a curve, in one file with a certificate that holds its public key. -/
theorem openKey_leafHolds_one :
    let one : PrivateKey := .ecdsa .p256 1 Curve.p256.generator
    let software : Signer.SoftwareKey := ⟨[0x30 :: one.publicKey.encode], one⟩
    let sections : List Pem.Section := [⟨.certificate, 0x30 :: one.publicKey.encode⟩,
      ⟨.ecPrivateKey, [0x30, 0x25, 0x02, 1, 1, 0x04, 0x20] ++ List.replicate 31 0 ++ [1]⟩]
    let document : Config.Document :=
      ⟨{ ecp := "signer" }, { software := some ⟨"key.pem", "key.pem"⟩ }⟩
    let path := Bytes.ofText "config.json"
    let draw (_ : Nat) : Id Bytes := pure []
    let responses := Frame.framesOf (sentResponses (software.provider draw) 0 openingCalls)
    let process : Process := { transport := { source := { chunks := [.octets responses] } } }
    let host : Host :=
      { environment := {}
        files := fun name =>
          .ok { bytes := if name = path then document.file else sections.flatMap (·.encode) }
        launch := fun _ config => if config = path then .ok process else .error Tree.missing }
    ∃ key, openKey host (some path) = .ok key ∧
      Certificate.leafHolds key.chain key.publicKeyOctets = true := by
  intro one software sections document path draw responses process host
  have resolved : Config.resolvePath host.environment (some path) = path := by decide +kernel
  have loaded : Signer.loadConfiguredKey host.files path = .ok software := by decide +kernel
  have opens : (openKey host (some path)).isOk = true := by decide +kernel
  have answered : responses ≠ [] := by decide +kernel
  have only : ∀ signer config started, host.launch signer config = .ok started →
      config = path ∧ started = process := by
    intro signer config started launched
    by_cases atPath : config = path
    · exact ⟨atPath, (Except.ok.inj ((if_pos atPath).symm.trans launched)).symm⟩
    · cases (if_neg atPath).symm.trans launched
  have answers : process.transport.source.Delivers responses := by
    refine ⟨?_, List.append_nil responses⟩
    intro chunk mem
    rw [List.mem_singleton.mp mem]
    exact answered
  have patient : process.transport.sink.Patient := Sink.patient_of_nil rfl rfl
  have serves : host.ServesConfigured draw :=
    Host.servesConfigured_of_answers only loaded patient answers
  rcases opened : openKey host (some path) with failure | key
  · rw [opened] at opens
    cases opens
  rw [← resolved] at loaded
  obtain ⟨-, chain, -, -, leaf, others, split, holds⟩ :=
    openKey_leafHolds_iff serves loaded opened
  refine ⟨key, rfl, holds.mpr ?_⟩
  obtain ⟨rfl, -⟩ := List.cons.inj (split.symm.trans chain)
  decide +kernel

end Client

end RemoteSigner
