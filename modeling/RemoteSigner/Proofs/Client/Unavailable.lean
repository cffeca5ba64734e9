import RemoteSigner.Proofs.Client.Identity
import RemoteSigner.Proofs.Config.Location

/-!
# Clients that may go on without a certificate

A client that can not open a key may go on without a client certificate if that is because there is
no configuration.  Every other failure has to be told from this one, in particular a signer binary
that is not found.

## Main definitions

* `Untold`: signers that do not tell what a client has to know
* `Host.Breaks`: what goes wrong where there is a configuration
* `FailsWith`: a key can not be opened, and the client may go on or not

## Main results

* `openKey_isConfigUnavailable_iff`: when a client may go on
-/

namespace RemoteSigner.Client

open Config

/-- A signer does not tell what a client has to know of its key. -/
inductive Untold (c : Wire.Connection) : Prop where
  /-- The call for the certificates fails. -/
  | chain {error : Wire.Error} (failed : c.certificateChain.1 = .error error)
  /-- There are no certificates. -/
  | emptyChain (none : c.certificateChain.1 = .ok [])
  /-- The call for the public key fails. -/
  | key {chain : List Bytes} {error : Wire.Error} (told : c.certificateChain.1 = .ok chain)
      (one : chain ≠ []) (failed : c.certificateChain.2.publicKey.1 = .error error)
  /-- The public key can not be decoded. -/
  | undecodable {chain : List Bytes} {octets : Bytes} {error : PublicKey.Fault}
      (told : c.certificateChain.1 = .ok chain) (one : chain ≠ [])
      (told' : c.certificateChain.2.publicKey.1 = .ok octets)
      (failed : PublicKey.decode octets = .error error)

/-- The calls at the start give no identity exactly if the signer does not tell what a client has to
know.  Where all of them go well, there is an identity. -/
theorem handshake_error_iff {c : Wire.Connection} :
    (∃ error, (handshake c).1 = .error error) ↔ Untold c := by
  constructor
  · rintro ⟨error, failed⟩
    cases told : c.certificateChain.1 with
    | error error => exact .chain told
    | ok chain =>
      by_cases one : chain = []
      · exact .emptyChain (told.trans (congrArg _ one))
      · cases told' : c.certificateChain.2.publicKey.1 with
        | error error => exact .key told one told'
        | ok octets =>
          cases decoded : PublicKey.decode octets with
          | error error => exact .undecodable told one told' decoded
          | ok key =>
            have found : (handshake c).1 = .ok ⟨chain, key, octets⟩ :=
              handshake_eq_ok_iff.mpr ⟨⟨told, one⟩, told', decoded⟩
            cases failed.symm.trans found
  · intro untold
    cases found : (handshake c).1 with
    | error error => exact ⟨error, rfl⟩
    | ok identity =>
      obtain ⟨⟨told, one⟩, told', decoded⟩ := handshake_eq_ok_iff.mp found
      cases untold with
      | chain failed => cases failed.symm.trans told
      | emptyChain none => exact absurd (Except.ok.inj (told.symm.trans none)) one
      | key _ _ failed => cases failed.symm.trans told'
      | undecodable _ _ answered failed =>
        obtain rfl := Except.ok.inj (told'.symm.trans answered)
        cases failed.symm.trans decoded

theorem isConfigUnavailable_of_acceptChain {result : Except Wire.Error (List Bytes)}
    {error : Error} (failed : acceptChain result = .error error) :
    error.isConfigUnavailable = false := by
  rcases result with failure | _ | ⟨leaf, others⟩ <;> cases failed <;> rfl

theorem isConfigUnavailable_of_acceptKey {result : Except Wire.Error Bytes} {error : Error}
    (failed : acceptKey result = .error error) : error.isConfigUnavailable = false := by
  cases result with
  | error failure =>
    cases failed
    rfl
  | ok octets =>
    unfold acceptKey at failed
    dsimp only [called, Except.mapError, bind, Except.bind] at failed
    split at failed <;> cases failed <;> rfl

/-- What a signer does not tell is no fault of the configuration. -/
theorem isConfigUnavailable_of_handshake {c : Wire.Connection} {error : Error}
    (failed : (handshake c).1 = .error error) : error.isConfigUnavailable = false := by
  rw [handshake_fst] at failed
  cases accepted : acceptChain c.certificateChain.1 with
  | error error' =>
    rw [accepted] at failed
    obtain rfl := Except.error.inj failed
    exact isConfigUnavailable_of_acceptChain accepted
  | ok chain =>
    rw [accepted] at failed
    cases accepted' : acceptKey c.certificateChain.2.publicKey.1 with
    | error error' =>
      simp only [accepted'] at failed
      obtain rfl := Except.error.inj failed
      exact isConfigUnavailable_of_acceptKey accepted'
    | ok key =>
      simp only [accepted'] at failed
      cases failed

theorem Key.ofChild_of_handshake (child : Child) {error : Error}
    (failed : (handshake child.connection).1 = .error error) :
    ∃ given, ofChild child = .error ⟨error, given⟩ := by
  rcases found : handshake child.connection with ⟨result, c⟩
  rw [found] at failed
  obtain rfl : result = .error error := failed
  exact ⟨_, by simp only [ofChild, found]; rfl⟩

/-- What goes wrong where there is a configuration, in the file at `path` or behind it. -/
inductive Host.Breaks (host : Host) (path : Bytes) : Prop where
  /-- The file can not be read, or is no configuration. -/
  | reading (unreadable : Unreadable host.files path)
  /-- The signer binary can not be started, be it that it is not found. -/
  | starting {document : Document} {signer : Bytes} {error : IoError}
      (isAt : document.IsAt host.files path)
      (named : document.signerBinary host.environment = .ok signer)
      (failed : host.launch signer path = .error error)
  /-- The signer does not tell what a client has to know. -/
  | asking {document : Document} {signer : Bytes} {process : Process}
      (isAt : document.IsAt host.files path)
      (named : document.signerBinary host.environment = .ok signer)
      (started : host.launch signer path = .ok process) (untold : Untold process.connection)

/-- A key can not be opened, and whether a client may go on without a client certificate. -/
def FailsWith (host : Host) (explicit : Option Bytes) (unavailable : Bool) : Prop :=
  ∃ failure, openKey host explicit = .error failure ∧
    failure.error.isConfigUnavailable = unavailable

section

variable {host : Host} {explicit : Option Bytes} {document : Document} {signer : Bytes}

/-- With a signer binary, all depends on the signer. -/
theorem openKey_eq_spawn
    (isAt : document.IsAt host.files (resolvePath host.environment explicit))
    (named : document.signerBinary host.environment = .ok signer) :
    openKey host explicit =
      Key.spawn host.launch signer (resolvePath host.environment explicit) := by
  simp only [openKey, loadSignerBinary_eq_ok_iff.mpr ⟨document, isAt, named⟩]

theorem failsWith_of_unavailable
    (unavailable : Unavailable host.files host.environment
      (resolvePath host.environment explicit)) : FailsWith host explicit true := by
  refine ⟨⟨.config .unavailable, none⟩, ?_, rfl⟩
  simp only [openKey, loadSignerBinary_eq_unavailable_iff.mpr unavailable]

theorem failsWith_of_breaks
    (breaks : host.Breaks (resolvePath host.environment explicit)) :
    FailsWith host explicit false := by
  cases breaks with
  | reading unreadable =>
    obtain ⟨error, failed, other⟩ := loadSignerBinary_of_unreadable host.environment unreadable
    exact ⟨⟨.config error, none⟩, by simp only [openKey, failed], other⟩
  | @starting _ signer error isAt named failed =>
    refine ⟨⟨.spawn signer error, none⟩, (openKey_eq_spawn isAt named).trans ?_, rfl⟩
    simp only [Key.spawn, failed]
  | @asking _ _ process isAt named started untold =>
    obtain ⟨error, failed⟩ := handshake_error_iff.mpr untold
    obtain ⟨given, fails⟩ := Key.ofChild_of_handshake (.start process) failed
    refine ⟨⟨error, given⟩, (openKey_eq_spawn isAt named).trans ?_,
      isConfigUnavailable_of_handshake failed⟩
    simp only [Key.spawn, started, fails]

/-- A key is opened, or there is no configuration, or something else goes wrong. -/
theorem openKey_cases (host : Host) (explicit : Option Bytes) :
    (∃ key, openKey host explicit = .ok key) ∨
      Unavailable host.files host.environment (resolvePath host.environment explicit) ∨
        host.Breaks (resolvePath host.environment explicit) := by
  rcases loadSignerBinary_cases host.files host.environment
      (resolvePath host.environment explicit) with
    unavailable | unreadable | ⟨document, signer, isAt, named⟩
  · exact .inr (.inl unavailable)
  · exact .inr (.inr (.reading unreadable))
  · cases started : host.launch signer (resolvePath host.environment explicit) with
    | error error => exact .inr (.inr (.starting isAt named started))
    | ok process =>
      cases found : (handshake process.connection).1 with
      | error error =>
        have untold := handshake_error_iff.mp ⟨error, found⟩
        exact .inr (.inr (.asking isAt named started untold))
      | ok identity =>
        let child := { Child.start process with connection := (handshake process.connection).2 }
        have opens : Key.ofChild (.start process) = .ok { identity with child } :=
          Key.ofChild_eq_ok_iff.mpr ⟨found, rfl⟩
        have binary := loadSignerBinary_eq_ok_iff.mpr ⟨document, isAt, named⟩
        exact .inl ⟨_, openKey_eq_ok_iff.mpr ⟨signer, process, binary, started, opens⟩⟩

end

theorem FailsWith.unique {host : Host} {explicit : Option Bytes} {unavailable unavailable' : Bool}
    (fails : FailsWith host explicit unavailable) (fails' : FailsWith host explicit unavailable') :
    unavailable = unavailable' := by
  obtain ⟨failure, failed, rfl⟩ := fails
  obtain ⟨failure', failed', rfl⟩ := fails'
  obtain rfl := Except.error.inj (failed.symm.trans failed')
  rfl

/-- What goes wrong, from whether the client may go on. -/
theorem FailsWith.unavailable_or_breaks {host : Host} {explicit : Option Bytes} {unavailable : Bool}
    (fails : FailsWith host explicit unavailable) :
    (unavailable = true ∧
      Unavailable host.files host.environment (resolvePath host.environment explicit)) ∨
    (unavailable = false ∧ host.Breaks (resolvePath host.environment explicit)) := by
  rcases openKey_cases host explicit with ⟨key, opens⟩ | missing | breaks
  · obtain ⟨failure, failed, -⟩ := fails
    cases failed.symm.trans opens
  · exact .inl ⟨fails.unique (failsWith_of_unavailable missing), missing⟩
  · exact .inr ⟨fails.unique (failsWith_of_breaks breaks), breaks⟩

/-- **A client may go on without a certificate exactly if there is no configuration**: the file that
is used is not found, or what it holds does not say where the signer binary is.  Whatever else goes
wrong is told from this, and the file that is used is the first one that is named. -/
theorem openKey_isConfigUnavailable_iff (host : Host) (explicit : Option Bytes) :
    (FailsWith host explicit true ↔
      Unavailable host.files host.environment (resolvePath host.environment explicit)) ∧
    (FailsWith host explicit false ↔ host.Breaks (resolvePath host.environment explicit)) ∧
    (∀ file, host.files (resolvePath host.environment explicit) = .ok file →
      MistypedSigner file.bytes → FailsWith host explicit false) ∧
    (∀ path ≠ [], explicit = some path → resolvePath host.environment explicit = path) ∧
    (explicit = none ∨ explicit = some [] →
      (∀ path ≠ [], host.environment.configPath = some path →
        resolvePath host.environment explicit = path) ∧
      (host.environment.configPath = none ∨ host.environment.configPath = some [] →
        resolvePath host.environment explicit = defaultFile host.environment)) := by
  refine ⟨⟨?_, failsWith_of_unavailable⟩, ⟨?_, failsWith_of_breaks⟩, ?_, ?_, ?_⟩
  · intro fails
    rcases fails.unavailable_or_breaks with ⟨-, missing⟩ | ⟨no, -⟩
    · exact missing
    · cases no
  · intro fails
    rcases fails.unavailable_or_breaks with ⟨no, -⟩ | ⟨-, breaks⟩
    · cases no
    · exact breaks
  · intro file opened mistyped
    exact failsWith_of_breaks (.reading (unreadable_of_mistyped opened mistyped))
  · rintro path named rfl
    exact resolvePath_explicit _ named
  · intro unset
    exact ⟨fun path named set => resolvePath_override unset set named, resolvePath_default unset⟩

/-- A file that the environment names, with `null` for the signer binary. -/
theorem openKey_isConfigUnavailable_null :
    let path := Bytes.ofText "c.json"
    let octets := Bytes.ofText "\x7b\"libs\":\x7b\"ecp\":null\x7d\x7d"
    let host : Host :=
      { environment := { configPath := some path }
        files := fun _ => .ok { bytes := octets }
        launch := fun _ _ => .error Tree.missing }
    resolvePath host.environment (some []) = path ∧ FailsWith host (some []) false := by
  intro path octets host
  have names : Json.ObjectWith (Libs.places {}) "ecp" (Bytes.ofText "null")
      (Bytes.ofText "\x7b\"ecp\":null\x7d") :=
    ⟨[], [], _, by decide, .first .nil (Json.literal_quoted _) .nil .nil (.nil false .nil), nofun,
      by decide, List.not_mem_nil⟩
  have whole : Json.ObjectWith (Document.places {}) "libs"
      (Bytes.ofText "\x7b\"ecp\":null\x7d") octets :=
    ⟨[], [], _, by decide, .first .nil (Json.literal_quoted _) .nil .nil (.nil false .nil), nofun,
      by decide, List.not_mem_nil⟩
  have mistyped : MistypedSigner octets :=
    ⟨{}, [], octets, [], _, _, by decide, .nil, whole, names, .null, by decide⟩
  obtain ⟨-, -, fails, -, resolved⟩ := openKey_isConfigUnavailable_iff host (some [])
  exact ⟨(resolved (.inr rfl)).1 path (by decide) rfl, fails _ rfl mistyped⟩

end RemoteSigner.Client
