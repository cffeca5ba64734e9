import RemoteSigner.Client.Embedding
import RemoteSigner.Proofs.Client.Identity
import RemoteSigner.Proofs.Signer.Encryption

/-!
# Buffers of the interface for programs in C

A program asks for the length of a result first and fetches the result with a buffer of that length
then.  Both are whole runs of a signer, with streams of their own.  The certificates stay the same,
and signatures are made anew; so what the second run gives is not what the first one has measured,
but it is as long.

## Main definitions

* `Placed`: what a buffer holds behind a function that has written its result
* `GivesLength`, `GivesResult`, `GivesNothing`: what a function does to its buffer
* `Host.ServesSigning`: signers serve the key that their configuration names to sign a digest

## Main results

* `signature_eq_some_iff`, `certificates_eq_some_iff`: when there is a result
* `Host.ServesSigning.signature_again`: a second run gives a signature of the same length
* `two_phases`: the functions that fill buffers
-/

namespace RemoteSigner.Client

open Wire Config

/-! ## Opening a key and signing -/

/-- A key signs as far as its signer does. -/
theorem Key.sign_eq_ok_iff {key : Key} {digest signature : Bytes} {opts : Option SignerOpts} :
    (key.sign digest opts).1 = .ok signature ↔
      (key.child.connection.sign (SignArgs.ofOpts digest opts)).1 = .ok signature := by
  rw [sign, call]
  exact mapError_eq_ok_iff

/-- The calls at the start and one to sign, with the replies to them. -/
def signingExchanges (identity : Identity) (args : SignArgs) (signature : Bytes) :
    List (Call × Reply) :=
  [(.certificateChain, .certificateChain identity.chain),
   (.publicKey, .publicKey identity.publicKeyOctets), (.sign args, .signature signature)]

/-- A signer tells who it is and signs exactly if its replies are these, there is a certificate, and
the public key can be decoded. -/
theorem handshake_sign_iff {c : Connection} {identity : Identity} {args : SignArgs}
    {signature : Bytes} :
    (handshake c).1 = .ok identity ∧ ((handshake c).2.sign args).1 = .ok signature ↔
      identity.chain ≠ [] ∧ PublicKey.decode identity.publicKeyOctets = .ok identity.publicKey ∧
        ∀ k call reply, (signingExchanges identity args signature)[k]? = some (call, reply) →
          ((c.run (((signingExchanges identity args signature).map Prod.fst).take k)).invoke
            call).1 = .ok reply := by
  let calls := (signingExchanges identity args signature).map Prod.fst
  have after₁ : c.run (calls.take 1) = c.certificateChain.2 :=
    (c.invoke_snd .certificateChain).symm
  have after₂ : c.run (calls.take 2) = c.certificateChain.2.publicKey.2 := by
    calc c.run (calls.take 2) = ((c.run (calls.take 1)).call .publicKey).2 := rfl
      _ = ((c.run (calls.take 1)).invoke .publicKey).2 := (Connection.invoke_snd _ _).symm
      _ = c.certificateChain.2.publicKey.2 := by rw [after₁, Connection.invoke]
  constructor
  · rintro ⟨found, signs⟩
    obtain ⟨⟨told, one⟩, told', decoded⟩ := handshake_eq_ok_iff.mp found
    rw [handshake_snd found] at signs
    refine ⟨one, decoded, ?_⟩
    intro k call reply h
    rcases k with _ | _ | _ | k
    · cases h
      exact Connection.certificateChain_eq_ok_iff.mp told
    · cases h
      rw [after₁]
      exact Connection.publicKey_eq_ok_iff.mp told'
    · cases h
      rw [after₂]
      exact Connection.sign_eq_ok_iff.mp signs
    · cases h
  · rintro ⟨one, decoded, succeed⟩
    have first : (c.invoke .certificateChain).1 = .ok (.certificateChain identity.chain) :=
      succeed 0 .certificateChain (.certificateChain identity.chain) rfl
    have second := succeed 1 .publicKey (.publicKey identity.publicKeyOctets) rfl
    have third := succeed 2 (.sign args) (.signature signature) rfl
    rw [after₁] at second
    rw [after₂] at third
    have found := handshake_eq_ok_iff.mpr ⟨⟨Connection.certificateChain_eq_ok_iff.mpr first, one⟩,
      Connection.publicKey_eq_ok_iff.mpr second, decoded⟩
    refine ⟨found, ?_⟩
    rw [handshake_snd found]
    exact Connection.sign_eq_ok_iff.mpr third

/-! ## Signers with a key in memory -/

/-- The interface asks for signatures of 32 octets, whatever the key. -/
theorem size_of_signOptions {publicKey : PublicKey} {length : Nat} {opts : SignerOpts}
    (chosen : Embedding.signOptions publicKey length = some opts) : opts.algorithm.size = 32 := by
  cases publicKey with
  | rsa | ecdsa =>
    obtain rfl := Option.some.inj chosen
    rfl
  | ed25519 => cases chosen

/-- A provider is asked for a signature only if the digest has the length that the options say. -/
theorem direct_sign_eq_ok_iff {provider : Signer.Provider Id} {digest signature : Bytes}
    {opts : SignerOpts} :
    provider.direct (.sign (SignArgs.ofOpts digest (some opts))) = .ok (.signature signature) ↔
      digest.length = opts.algorithm.size ∧
        (provider.sign digest (some opts)).run = .ok signature := by
  have effective : (SignArgs.ofOpts digest (some opts)).effectiveOpts = some opts := rfl
  have same : (SignArgs.ofOpts digest (some opts)).digest = digest := rfl
  simp only [Signer.Provider.direct, effective, same]
  split
  next right =>
    rw [map_eq_ok_iff]
    simp only [Reply.signature.injEq, exists_eq_right]
    exact ⟨fun ok => ⟨right, ok⟩, fun both => both.2⟩
  next wrong =>
    refine iff_of_false ?_ fun both => wrong both.1
    intro answered
    cases answered

/-- The calls that the interface makes to sign a digest. -/
def signingCalls (publicKeyOctets digest : Bytes) : List Call :=
  openingCalls ++ match PublicKey.decode publicKeyOctets with
    | .ok publicKey => ((Embedding.signOptions publicKey digest.length).map fun opts =>
        Call.sign (SignArgs.ofOpts digest (some opts))).toList
    | .error _ => []

theorem signingCalls_eq {identity : Identity} {digest signature : Bytes} {opts : SignerOpts}
    (decoded : PublicKey.decode identity.publicKeyOctets = .ok identity.publicKey)
    (chosen : Embedding.signOptions identity.publicKey digest.length = some opts) :
    signingCalls identity.publicKeyOctets digest =
      (signingExchanges identity (SignArgs.ofOpts digest (some opts)) signature).map Prod.fst := by
  rw [signingCalls, decoded]
  simp only [chosen]
  rfl

/-- Wherever a signer starts, it serves the key that its configuration names, if it can be loaded:
the streams of the process lead to a service, for all calls that it takes to sign the digest. -/
def Host.ServesSigning (host : Host) (draw : Nat → Id Bytes) (digest : Bytes) : Prop :=
  ∀ signer path process software, host.launch signer path = .ok process →
    Signer.loadConfiguredKey host.files path = .ok software →
      ∃ service, Linked (software.provider draw)
        (signingCalls software.key.publicKey.encode digest) process.connection service

/-- Where one process is started, and for one configuration only, the streams of that process have
to hand over the responses to the calls that it takes to sign. -/
theorem Host.servesSigning_of_answers {host : Host} {draw : Nat → Id Bytes} {path digest : Bytes}
    {process : Process} {software : Signer.SoftwareKey}
    (only : ∀ signer config started, host.launch signer config = .ok started →
      config = path ∧ started = process)
    (loaded : Signer.loadConfiguredKey host.files path = .ok software)
    (patient : process.transport.sink.Patient)
    (answers : process.transport.source.Delivers (Frame.framesOf (sentResponses
      (software.provider draw) 0 (signingCalls software.key.publicKey.encode digest)))) :
    host.ServesSigning draw digest := by
  intro signer config started software' launched loaded'
  obtain ⟨rfl, rfl⟩ := only signer config started launched
  obtain rfl := Except.ok.inj (loaded.symm.trans loaded')
  exact exists_service patient answers

/-- What comes back in a session does not depend on what is drawn, but for the signature, which is
as long.  Only the third reply is a signature, and one of the same length fits as well. -/
theorem succeeds_any_draw {software : Signer.SoftwareKey}
    (inverts : ∀ key, software.key = .rsa key → key.Inverts) (draw draw' : Nat → Id Bytes)
    {identity : Identity} {digest signature : Bytes} {opts : SignerOpts}
    (succeeds : Succeeds (software.provider draw) 0
      (signingExchanges identity (SignArgs.ofOpts digest (some opts)) signature)) :
    ∃ signature', signature'.length = signature.length ∧ Succeeds (software.provider draw') 0
      (signingExchanges identity (SignArgs.ofOpts digest (some opts)) signature') := by
  obtain ⟨sent, answered, given⟩ := succeeds 2 _ _ rfl
  obtain ⟨right, signed⟩ := direct_sign_eq_ok_iff.mp given
  obtain ⟨signature', signed', long⟩ :=
    Signer.SoftwareKey.sign_any_draw inverts draw draw' signed
  refine ⟨signature', long, ?_⟩
  intro k call reply h
  match k, h with
  | 0, rfl => exact succeeds 0 _ _ rfl
  | 1, rfl => exact succeeds 1 _ _ rfl
  | 2, rfl =>
    exact ⟨sent, Response.fits_signature long answered,
      direct_sign_eq_ok_iff.mpr ⟨right, signed'⟩⟩

/-! ## The functions -/

namespace Embedding

section

variable {host : Host} {config : Option Bytes}

theorem withKey_eq_some_iff {α : Type} {use : Key → Except Error α × Key} {a : α} :
    (withKey host config use).1 = some a ↔
      ∃ key, openKey host (configPath config) = .ok key ∧ (use key).1 = .ok a := by
  rw [withKey]
  cases openKey host (configPath config) with
  | error failure => exact ⟨nofun, fun ⟨key, opened, _⟩ => nomatch opened⟩
  | ok key =>
    simp only [Except.ok.injEq, exists_eq_left']
    cases (use key).1 with
    | error error => exact ⟨nofun, nofun⟩
    | ok result => simp only [Except.toOption, Option.some.injEq, Except.ok.injEq]

theorem certificates_eq_some_iff {pem : Bytes} : (certificates host config).1 = some pem ↔
    ∃ key, openKey host (configPath config) = .ok key ∧ key.chainFile = pem := by
  rw [certificates, withKey_eq_some_iff]
  simp only [Except.ok.injEq]

/-- A key can be opened, the interface signs with such a key, and the key signs the digest. -/
def Signs (host : Host) (config : Option Bytes) (digest octets : Bytes) : Prop :=
  ∃ key opts, openKey host (configPath config) = .ok key ∧
    signOptions key.publicKey digest.length = some opts ∧
      (key.sign digest (some opts)).1 = .ok octets

theorem signature_eq_some_iff {digest octets : Bytes} :
    (signature host config digest).1 = some octets ↔ Signs host config digest octets := by
  have joined : (signature host config digest).1 = some octets ↔ _ :=
    Option.join_eq_some_iff.trans withKey_eq_some_iff
  rw [joined]
  constructor
  · rintro ⟨key, opened, used⟩
    split at used
    next => cases used
    next opts chosen =>
      obtain ⟨octets', signed, same⟩ := map_eq_ok_iff.mp used
      obtain rfl := Option.some.inj same
      exact ⟨key, opts, opened, chosen, signed⟩
  · rintro ⟨key, opts, opened, chosen, signed⟩
    refine ⟨key, opened, ?_⟩
    simp only [chosen, map_eq_ok_iff]
    exact ⟨octets, signed, rfl⟩

section

variable {draw : Nat → Id Bytes} {digest : Bytes} {software : Signer.SoftwareKey}

/-- With a signer that serves a key, there is a signature exactly if the signer can be started,
there is a certificate, the public key can be decoded, and the session succeeds. -/
theorem signature_eq_some_iff_of_serves (serves : host.ServesSigning draw digest)
    (loaded : Signer.loadConfiguredKey host.files
      (resolvePath host.environment (configPath config)) = .ok software) {octets : Bytes} :
    (signature host config digest).1 = some octets ↔
      ∃ signer process identity opts,
        loadSignerBinary host.files host.environment
            (resolvePath host.environment (configPath config)) = .ok signer ∧
          host.launch signer (resolvePath host.environment (configPath config)) = .ok process ∧
        identity.publicKeyOctets = software.key.publicKey.encode ∧ identity.chain ≠ [] ∧
        PublicKey.decode identity.publicKeyOctets = .ok identity.publicKey ∧
        signOptions identity.publicKey digest.length = some opts ∧
        Succeeds (software.provider draw) 0
          (signingExchanges identity (SignArgs.ofOpts digest (some opts)) octets) := by
  rw [signature_eq_some_iff]
  constructor
  · rintro ⟨key, opts, opened, chosen, signed⟩
    obtain ⟨signer, process, named, started, ready⟩ := openKey_eq_ok_iff.mp opened
    obtain ⟨told, left⟩ := Key.ofChild_eq_ok_iff.mp ready
    obtain ⟨service, linked⟩ := serves signer _ process software started loaded
    have owned := (identity_of_linked linked told).2
    have octetsSame : key.publicKeyOctets = software.key.publicKey.encode :=
      (Except.ok.inj owned).symm
    rw [Key.sign_eq_ok_iff, ← left] at signed
    obtain ⟨one, decoded, replies⟩ := handshake_sign_iff.mp ⟨told, signed⟩
    rw [← octetsSame, signingCalls_eq decoded chosen] at linked
    have succeeds := linked.succeeds_iff.mpr replies
    exact ⟨signer, process, key.toIdentity, opts, named, started, octetsSame, one, decoded, chosen,
      succeeds⟩
  · rintro ⟨signer, process, identity, opts, named, started, owned, one, decoded, chosen, succeeds⟩
    obtain ⟨service, linked⟩ := serves signer _ process software started loaded
    rw [← owned, signingCalls_eq decoded chosen] at linked
    obtain ⟨told, signed⟩ :=
      handshake_sign_iff.mpr ⟨one, decoded, linked.succeeds_iff.mp succeeds⟩
    let child := { Child.start process with connection := (handshake process.connection).2 }
    refine ⟨{ identity with child }, opts, ?_, chosen, Key.sign_eq_ok_iff.mpr signed⟩
    exact openKey_eq_ok_iff.mpr
      ⟨signer, process, named, started, Key.ofChild_eq_ok_iff.mpr ⟨told, rfl⟩⟩

/-- A second run of a signer gives a signature of the same length. -/
theorem signature_again (inverts : ∀ key, software.key = .rsa key → key.Inverts)
    (serves : host.ServesSigning draw digest)
    (loaded : Signer.loadConfiguredKey host.files
      (resolvePath host.environment (configPath config)) = .ok software) {octets : Bytes}
    (signed : (signature host config digest).1 = some octets) {launch : Launcher}
    {draw' : Nat → Id Bytes} (again : { host with launch }.ServesSigning draw' digest)
    (starts : ∀ signer path process, host.launch signer path = .ok process →
      ∃ process', launch signer path = .ok process') :
    ∃ octets', (signature { host with launch } config digest).1 = some octets' ∧
      octets'.length = octets.length := by
  obtain ⟨signer, process, identity, opts, named, started, owned, one, decoded, chosen, succeeds⟩ :=
    (signature_eq_some_iff_of_serves serves loaded).mp signed
  obtain ⟨process', started'⟩ := starts signer _ process started
  obtain ⟨octets', long, succeeds'⟩ := succeeds_any_draw inverts draw draw' succeeds
  exact ⟨octets', (signature_eq_some_iff_of_serves again loaded).mpr ⟨signer, process', identity,
    opts, named, started', owned, one, decoded, chosen, succeeds'⟩, long⟩

/-- A signer signs only digests of 32 octets, and signatures on a curve are short. -/
theorem length_signature (serves : host.ServesSigning draw digest)
    (loaded : Signer.loadConfiguredKey host.files
      (resolvePath host.environment (configPath config)) = .ok software) {octets : Bytes}
    (signed : (signature host config digest).1 = some octets) :
    digest.length = 32 ∧ ∀ curve secret point, software.key = .ecdsa curve secret point →
      octets.length ≤ 2 * curve.size + 8 := by
  obtain ⟨signer, process, identity, opts, -, -, -, -, -, chosen, succeeds⟩ :=
    (signature_eq_some_iff_of_serves serves loaded).mp signed
  obtain ⟨-, -, given⟩ := succeeds 2 _ _ rfl
  obtain ⟨right, made⟩ := direct_sign_eq_ok_iff.mp given
  refine ⟨right.trans (size_of_signOptions chosen), ?_⟩
  intro curve secret point holds
  exact Signer.SoftwareKey.length_sign_ecdsa_le holds draw made

end

/-! ## Buffers -/

/-- Behind a function that has written its result, the front of a buffer is the result, and all
other octets are what they were before. -/
def Placed (result before after : Bytes) : Prop :=
  ∀ i : Nat, after[i]? = if i < result.length then result[i]? else before[i]?

/-- A function gives the length of a result whatever the buffer, and leaves a short one as it is. -/
structure GivesLength (result : Bytes) (f : Option Bytes → Written) : Prop where
  length : ∀ buffer, (f buffer).length = result.length
  absent : (f none).buffer = none
  short : ∀ before, before.length < result.length → (f (some before)).buffer = some before
  long : ∀ before, result.length ≤ before.length →
    ∃ after, (f (some before)).buffer = some after ∧ Placed result before after

/-- A function gives the length of a result unless the buffer is too short for it. -/
structure GivesResult (result : Bytes) (f : Option Bytes → Written) : Prop where
  absent : f none = ⟨result.length, none⟩
  short : ∀ before, before.length < result.length → f (some before) = ⟨0, some before⟩
  long : ∀ before, result.length ≤ before.length →
    ∃ after, f (some before) = ⟨result.length, some after⟩ ∧ Placed result before after

/-- A function leaves every buffer as it is and gives the length zero. -/
def GivesNothing (f : Option Bytes → Written) : Prop := ∀ buffer, f buffer = ⟨0, buffer⟩

theorem fill_short {result buffer : Bytes} (short : buffer.length < result.length) :
    fill result buffer = none :=
  if_neg (Nat.not_le.mpr short)

theorem fill_long {result buffer : Bytes} (long : result.length ≤ buffer.length) :
    ∃ after, fill result buffer = some after ∧ Placed result buffer after := by
  refine ⟨result ++ buffer.drop result.length, if_pos long, ?_⟩
  intro i
  split
  next front => exact List.getElem?_append_left front
  next behind =>
    have far := Nat.not_lt.mp behind
    rw [List.getElem?_append_right far, List.getElem?_drop, Nat.add_sub_cancel' far]

theorem writeAlways_gives (result : Bytes) : GivesLength result (writeAlways (some result)) where
  length _ := rfl
  absent := rfl
  short before short := by
    rw [writeAlways, Option.map_some, fill_short short]
    rfl
  long before long := by
    obtain ⟨after, filled, placed⟩ := fill_long long
    refine ⟨after, ?_, placed⟩
    rw [writeAlways, Option.map_some, filled]
    rfl

theorem writeIfFits_gives (result : Bytes) : GivesResult result (writeIfFits (some result)) where
  absent := rfl
  short before short := by
    simp only [writeIfFits, fill_short short]
  long before long := by
    obtain ⟨after, filled, placed⟩ := fill_long long
    refine ⟨after, ?_, placed⟩
    simp only [writeIfFits, filled]

/-- An opened key has a certificate, so its file is not empty. -/
theorem chainFile_pos {explicit : Option Bytes} {key : Key}
    (opened : openKey host explicit = .ok key) : 0 < key.chainFile.length := by
  obtain ⟨signer, process, -, told⟩ := exists_process_of_openKey opened
  obtain ⟨⟨-, one⟩, -⟩ := handshake_eq_ok_iff.mp told
  obtain ⟨leaf, others, chain⟩ := List.exists_cons_of_ne_nil one
  rw [Key.chainFile, chain, List.flatMap_cons, List.length_append]
  apply Nat.add_pos_left
  simp [Pem.Section.encode]

theorem getCertPem_givesNothing
    (failed : ∃ failure, openKey host (configPath config) = .error failure) :
    GivesNothing fun buffer => (getCertPem host config buffer).1 := by
  obtain ⟨failure, failed⟩ := failed
  have none : (certificates host config).1 = none := by
    rw [certificates, withKey, failed]
  intro buffer
  change writeAlways (certificates host config).1 buffer = _
  rw [none]
  rfl

theorem getCertPem_givesLength {key : Key} (opened : openKey host (configPath config) = .ok key) :
    GivesLength key.chainFile fun buffer => (getCertPem host config buffer).1 := by
  change GivesLength _ (writeAlways (certificates host config).1)
  rw [certificates_eq_some_iff.mpr ⟨key, opened, rfl⟩]
  exact writeAlways_gives _

theorem sign_givesNothing {digest : Bytes} (none : ¬ ∃ octets, Signs host config digest octets) :
    GivesNothing fun buffer => (sign host config (some digest) buffer).1 := by
  intro buffer
  change writeIfFits (signature host config digest).1 buffer = _
  cases given : (signature host config digest).1 with
  | none => rfl
  | some octets => exact absurd ⟨octets, signature_eq_some_iff.mp given⟩ none

theorem sign_givesResult {digest octets : Bytes} (signs : Signs host config digest octets) :
    GivesResult octets fun buffer => (sign host config (some digest) buffer).1 := by
  change GivesResult _ (writeIfFits (signature host config digest).1)
  rw [signature_eq_some_iff.mpr signs]
  exact writeIfFits_gives octets

/-- A length that is not zero is that of a signature. -/
theorem signs_of_length_pos {digest : Bytes} {buffer : Option Bytes}
    (positive : 0 < (sign host config (some digest) buffer).1.length) :
    ∃ octets, Signs host config digest octets := by
  by_contra none
  have zero : (sign host config (some digest) buffer).1.length = 0 :=
    congrArg Written.length (sign_givesNothing none buffer)
  exact absurd zero positive.ne'

end

/-- **The functions that fill buffers.**  The length of the certificates is given whatever the
buffer, and is zero exactly if no key can be opened; a signature has to fit.  With a signer that
serves a key in memory, a buffer of the length that one run gives is long enough for the next. -/
theorem two_phases (host : Host) (config : Option Bytes) :
    ((∃ failure, openKey host (configPath config) = .error failure) →
      GivesNothing fun buffer => (getCertPem host config buffer).1) ∧
    (∀ key, openKey host (configPath config) = .ok key → 0 < key.chainFile.length ∧
      GivesLength key.chainFile fun buffer => (getCertPem host config buffer).1) ∧
    (GivesNothing fun buffer => (sign host config none buffer).1) ∧
    ∀ digest : Bytes,
      ((¬ ∃ octets, Signs host config digest octets) →
        GivesNothing fun buffer => (sign host config (some digest) buffer).1) ∧
      (∀ octets, Signs host config digest octets →
        GivesResult octets fun buffer => (sign host config (some digest) buffer).1) ∧
      ∀ software draw, Signer.loadConfiguredKey host.files
          (resolvePath host.environment (configPath config)) = .ok software →
        (∀ key, software.key = .rsa key → key.Inverts) → host.ServesSigning draw digest →
          (digest.length ≠ 32 → ∀ buffer, (sign host config (some digest) buffer).1.length = 0) ∧
          ∀ n, 0 < n → (sign host config (some digest) none).1.length = n →
            (∀ secret point, software.key = .ecdsa .p256 secret point → n ≤ 72) ∧
            (∀ secret point, software.key = .ecdsa .p384 secret point → n ≤ 104) ∧
            ∀ launch draw', { host with launch }.ServesSigning draw' digest →
              (∀ signer path process, host.launch signer path = .ok process →
                ∃ process', launch signer path = .ok process') →
              ∀ buffer : Bytes, n ≤ buffer.length →
                (sign { host with launch } config (some digest) (some buffer)).1.length = n := by
  refine ⟨getCertPem_givesNothing, ?_, fun _ => rfl, ?_⟩
  · intro key opened
    exact ⟨chainFile_pos opened, getCertPem_givesLength opened⟩
  intro digest
  refine ⟨sign_givesNothing, fun _ => sign_givesResult, ?_⟩
  intro software draw loaded inverts serves
  constructor
  · intro other buffer
    by_contra nonzero
    obtain ⟨octets, signs⟩ := signs_of_length_pos (Nat.pos_of_ne_zero nonzero)
    exact other (length_signature serves loaded (signature_eq_some_iff.mpr signs)).1
  · intro n positive measured
    rw [← measured] at positive
    obtain ⟨octets, signs⟩ := signs_of_length_pos positive
    have given := signature_eq_some_iff.mpr signs
    obtain rfl : octets.length = n :=
      (congrArg Written.length (sign_givesResult signs).absent).symm.trans measured
    have short := (length_signature serves loaded given).2
    refine ⟨short .p256, short .p384, ?_⟩
    intro launch draw' again starts buffer long
    obtain ⟨octets', given', same⟩ :=
      signature_again inverts serves loaded given again starts
    rw [← same] at long ⊢
    obtain ⟨after, filled, -⟩ :=
      (sign_givesResult (signature_eq_some_iff.mp given')).long buffer long
    exact congrArg Written.length filled

/-! ## Runs under different salts -/

namespace Salted

/-- The key is made of two Mersenne primes. -/
def software : Signer.SoftwareKey := ⟨[[0x30]], .rsa Signer.SoftwareKey.mersenneKey⟩

def path : Bytes := Bytes.ofText "config.json"

/-- A configuration at its path, and one file with the certificate and the key. -/
def files : FileSystem := fun name =>
  let key := Signer.SoftwareKey.mersenneKey
  let document : Document := ⟨{ ecp := "signer" }, { software := some ⟨"key.pem", "key.pem"⟩ }⟩
  let sections : List Pem.Section := [⟨.certificate, [0x30]⟩,
    ⟨.rsaPrivateKey, Der.encodeSequence ([0, key.modulus, key.exponent, key.privateExponent,
      key.p, key.q, 0, 0, 0].map Der.encodeNatural)⟩]
  .ok { bytes := if name = path then document.file else sections.flatMap (·.encode) }

/-- What a signer hands over that signs a digest under a salt. -/
def responses (salt digest : Bytes) : Bytes :=
  Frame.framesOf (sentResponses (software.provider fun _ => pure salt) 0
    (signingCalls software.key.publicKey.encode digest))

def process (salt digest : Bytes) : Process :=
  { transport := { source := { chunks := [.octets (responses salt digest)] } } }

/-- Signers are started for one configuration. -/
def host (salt digest : Bytes) : Host where
  environment := {}
  files := files
  launch _ config := if config = path then .ok (process salt digest) else .error Tree.missing

theorem resolved : resolvePath {} (configPath (some path)) = path := by
  decide +kernel

theorem loads : Signer.loadConfiguredKey files (resolvePath {} (configPath (some path))) =
    .ok software := by
  decide +kernel

theorem inverts (key : Rsa.PrivateKey) (holds : software.key = .rsa key) : key.Inverts := by
  obtain rfl := PrivateKey.rsa.inj holds
  exact Signer.SoftwareKey.mersenneKey_madeOfPrimes.inverts

theorem launch_eq (salt digest signer : Bytes) :
    (host salt digest).launch signer path = .ok (process salt digest) := by
  simp only [host, if_true]

theorem of_launch {salt digest signer config : Bytes} {started : Process}
    (launched : (host salt digest).launch signer config = .ok started) :
    config = path ∧ started = process salt digest := by
  by_cases atPath : config = path
  · exact ⟨atPath, (Except.ok.inj ((if_pos atPath).symm.trans launched)).symm⟩
  · cases (if_neg atPath).symm.trans launched

theorem serves {salt digest : Bytes} (some : responses salt digest ≠ []) :
    (host salt digest).ServesSigning (fun _ => pure salt) digest := by
  have loaded : Signer.loadConfiguredKey files path = .ok software := resolved ▸ loads
  refine Host.servesSigning_of_answers (fun _ _ _ => of_launch) loaded
    (Sink.patient_of_nil rfl rfl) ⟨?_, List.append_nil _⟩
  intro chunk mem
  rw [List.mem_singleton.mp mem]
  exact some

/-- Whatever the octets of a signature are, there is one, and it is as long as the modulus. -/
theorem exists_signature :
    ∃ octets, octets.length = 81 ∧ ((software.provider fun _ => (pure [0] : Id Bytes)).sign
      (List.replicate 32 0) (some (.pss .sha256 (.bytes 32)))).run = .ok octets := by
  have holds : software.key = .rsa Signer.SoftwareKey.mersenneKey := rfl
  simp only [Signer.SoftwareKey.provider, holds]
  obtain ⟨octets, made⟩ : ∃ octets, (Signer.signRsa (fun _ => (pure [0] : Id Bytes))
      Signer.SoftwareKey.mersenneKey (List.replicate 32 0) (some (.pss .sha256 (.bytes 32)))).run =
        .ok octets :=
    (Signer.exists_signRsa_pss_iff (by decide +kernel) (inverts _ holds) _).mpr
      ⟨by decide +kernel, by decide +kernel, by decide +kernel⟩
  refine ⟨octets, ?_, made⟩
  rw [(Signer.of_signRsa made).2]
  decide +kernel

/-- A signature of 81 octets comes out.  Only its length is known, so its frame is measured with
another one. -/
theorem length_sign :
    (sign (host [0] (List.replicate 32 0)) (some path) (some (List.replicate 32 0))
      none).1.length = 81 := by
  obtain ⟨octets, long, made⟩ := exists_signature
  let publicKey := Signer.SoftwareKey.mersenneKey.toPublicKey
  let identity : Identity := ⟨[[0x30]], .rsa publicKey, (RemoteSigner.PublicKey.rsa publicKey).encode⟩
  have succeeds : Succeeds (software.provider fun _ => pure [0]) 0 (signingExchanges identity
      (SignArgs.ofOpts (List.replicate 32 0) (some (.pss .sha256 (.bytes 32)))) octets) := by
    intro k call reply h
    match k, h with
    | 0, rfl => exact ⟨by decide +kernel, by decide +kernel, rfl⟩
    | 1, rfl => exact ⟨by decide +kernel, by decide +kernel, rfl⟩
    | 2, rfl =>
      have fits : Frame.Fits (Response.ok 2 (.signature (List.replicate 81 0))) := by
        decide +kernel
      refine ⟨by decide +kernel, Response.fits_signature (long.trans (by decide)) fits, ?_⟩
      exact direct_sign_eq_ok_iff.mpr ⟨by decide, made⟩
  have started : (host [0] (List.replicate 32 0)).launch (Bytes.ofText "signer")
      (resolvePath {} (configPath (some path))) = .ok (process [0] (List.replicate 32 0)) := by
    rw [resolved, launch_eq]
  have signs := (signature_eq_some_iff_of_serves (serves (by decide +kernel)) loads).mpr
    ⟨Bytes.ofText "signer", process [0] _, identity, _, by decide +kernel, started, rfl, by decide,
      by decide +kernel, rfl, succeeds⟩
  rw [← long]
  exact congrArg Written.length (sign_givesResult (signature_eq_some_iff.mp signs)).absent

end Salted

/-- The buffer is filled under another salt than it was measured under; and a digest that is too
short. -/
theorem two_phases_salts :
    let digest : Bytes := List.replicate 32 0
    (sign (Salted.host [0] digest) (some Salted.path) (some digest) none).1.length = 81 ∧
      (sign (Salted.host [1] digest) (some Salted.path) (some digest)
        (some (List.replicate 100 7))).1.length = 81 ∧
      (sign (Salted.host [0] [0]) (some Salted.path) (some [0]) none).1.length = 0 := by
  intro digest
  obtain ⟨-, -, -, phases⟩ := two_phases (Salted.host [0] digest) (some Salted.path)
  obtain ⟨-, -, inMemory⟩ := phases digest
  obtain ⟨-, again⟩ := inMemory Salted.software (fun _ => pure [0]) Salted.loads Salted.inverts
    (Salted.serves (by decide +kernel))
  obtain ⟨-, -, refill⟩ := again 81 (by decide) Salted.length_sign
  obtain ⟨-, -, -, phasesShort⟩ := two_phases (Salted.host [0] [0]) (some Salted.path)
  obtain ⟨-, -, inMemoryShort⟩ := phasesShort [0]
  obtain ⟨short, -⟩ := inMemoryShort Salted.software (fun _ => pure [0]) Salted.loads Salted.inverts
    (Salted.serves (by decide +kernel))
  refine ⟨Salted.length_sign, ?_, short (by decide) none⟩
  refine refill (Salted.host [1] digest).launch (fun _ => pure [1])
    (Salted.serves (by decide +kernel)) ?_ _ (by decide)
  intro signer config started launched
  obtain ⟨rfl, -⟩ := Salted.of_launch launched
  exact ⟨Salted.process [1] digest, Salted.launch_eq [1] digest signer⟩

end Embedding

end RemoteSigner.Client
