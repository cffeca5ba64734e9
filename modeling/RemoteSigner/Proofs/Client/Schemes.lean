import RemoteSigner.Client.Tls
import RemoteSigner.Proofs.Client.Buffers
import RemoteSigner.Proofs.Client.Handshake
import RemoteSigner.Proofs.Signer.Requests

/-!
# Schemes in a handshake

The schemes of a key are named in four places: where they are listed, where one of them is chosen,
where the certificates are presented, and where a message is prepared.  These agree: the
certificates are presented exactly if a scheme is chosen, and every scheme that is chosen has been
offered and is one by which messages are prepared.  What is prepared has the length that the service
demands of a digest under these options, so the service does not refuse it.  All other schemes are
refused before the signer is asked.

A prepared message is a digest, which is short, or with Ed25519 the message itself, which may be too
long to be sent.

## Main definitions

* `Prescribes`: what a scheme says about a message
* `SignsBy`: how a message is signed by a scheme

## Main results

* `choose_eq_some_iff`: the scheme that is chosen
* `prepare_eq_ok_iff`: the schemes by which messages are prepared
* `chosen_signs`: what follows from what a server offers
-/

namespace RemoteSigner

open Wire

/-! ## Requests to sign -/

namespace Request

variable (id : UInt64) (octets : Bytes) (opts : Option SignerOpts)

/-- A request to sign some octets. -/
def toSign : Request := current id (.sign (.ofOpts octets opts))

/-- Octets make a request as long as their letters. -/
theorem length_encode_toSign : (Message.encode (toSign id octets opts)).length =
    (octets.length + 2) / 3 * 4 + (Message.encode (toSign id [] opts)).length := by
  simp only [toSign, length_encode_current, Call.length_sign, Call.signMembers, SignArgs.ofOpts,
    List.length_nil]
  omega

variable {id octets opts}

/-- A request to sign a digest can be sent. -/
theorem fits_toSign_of_short (short : octets.length ≤ 64)
    (brief : (Message.toValue (Call.sign (.ofOpts [] opts))).compact.length ≤ 256) :
    Frame.Fits (toSign id octets opts) := by
  have number := idLength_le id
  rw [Frame.Fits, length_encode_toSign, toSign, length_encode_current, Frame.maxLength]
  omega

/-- A request to sign more octets than a frame may have can not be sent. -/
theorem not_fits_toSign_of_long (long : Frame.maxLength < octets.length) :
    ¬ Frame.Fits (toSign id octets opts) := by
  rw [Frame.Fits, length_encode_toSign]
  omega

end Request

/-- A linked client that makes one call gets the reply of the provider if everything can be sent. -/
theorem Wire.Linked.ok_iff {provider : Signer.Provider Id} {client : Connection} {call : Call}
    {service : Transport} (linked : Linked provider [call] client service) {reply : Reply} :
    (client.invoke call).1 = .ok reply ↔ Frame.Fits (Request.current client.nextId call) ∧
      Frame.Fits (Response.ok client.nextId reply) ∧ provider.direct call = .ok reply := by
  have succeeds : Succeeds provider client.nextId [(call, reply)] ↔ _ := Linked.succeeds_iff linked
  have number : client.nextId + UInt64.ofNat 0 = client.nextId := UInt64.add_zero _
  constructor
  · intro ok
    have all := succeeds.mpr fun k call' reply' h => by
      rcases k with _ | k <;> cases h
      exact ok
    have first := all 0 call reply rfl
    rwa [number] at first
  · intro given
    refine succeeds.mp (fun k call' reply' h => ?_) 0 call reply rfl
    rcases k with _ | k <;> cases h
    rwa [number]

namespace Client.Tls

/-! ## What is offered -/

section

variable {key : PublicKey} {identity : Identity} {offered : List Scheme}

/-- A scheme is chosen exactly if some scheme of the key is offered. -/
theorem choose_isSome_iff :
    (choose key offered).isSome ↔ ∃ scheme ∈ schemes key, scheme ∈ offered := by
  simp only [choose, List.find?_isSome, List.contains_iff_mem]

/-- The certificates are presented exactly if some scheme of the key is offered. -/
theorem present_eq_some_iff {chain : List Bytes} : present identity offered = some chain ↔
    chain = identity.chain ∧ ∃ scheme ∈ schemes identity.publicKey, scheme ∈ offered := by
  rw [present, Option.ite_none_right_eq_some, List.any_eq_true, Option.some.injEq, eq_comm,
    and_comm]
  simp only [List.contains_iff_mem]

/-- The scheme that is chosen is the first one of the key that is offered. -/
theorem choose_eq_some_iff {scheme : Scheme} : choose key offered = some scheme ↔
    scheme ∈ offered ∧ ∃ before after, schemes key = before ++ scheme :: after ∧
      ∀ other ∈ before, other ∉ offered := by
  simp only [choose, List.find?_eq_some_iff_append, List.contains_iff_mem, Bool.not_eq_true',
    ← Bool.not_eq_true]

end

/-! ## What is prepared -/

/-- The schemes that sign a digest with a salt, and the algorithm of the digest. -/
def Scheme.salted : List (Scheme × HashAlgorithm) :=
  [(rsaPssSha256, .sha256), (rsaPssSha384, .sha384), (rsaPssSha512, .sha512)]

/-- The schemes that sign a bare digest, and its algorithm; on a curve, the digest is as long as a
coordinate. -/
def Scheme.bare : List (Scheme × HashAlgorithm) :=
  [(rsaPkcs1Sha256, .sha256), (rsaPkcs1Sha384, .sha384), (rsaPkcs1Sha512, .sha512),
    (ecdsaP256Sha256, .sha256), (ecdsaP384Sha384, .sha384)]

/-- What a scheme says about a message: which octets are signed, and with which options. -/
inductive Prescribes (message : Bytes) : Scheme → Bytes → Option SignerOpts → Prop
  /-- The digest, with a salt of the same length. -/
  | salted {scheme : Scheme} {hash : HashAlgorithm} (named : (scheme, hash) ∈ Scheme.salted) :
      Prescribes message scheme (hash.digest message) (some (.pss hash .equalsHash))
  /-- The digest, with the bare algorithm. -/
  | bare {scheme : Scheme} {hash : HashAlgorithm} (named : (scheme, hash) ∈ Scheme.bare) :
      Prescribes message scheme (hash.digest message) (some (.hash hash))
  /-- The message. -/
  | ed25519 : Prescribes message .ed25519 message none

variable {wording : Wording} {message octets : Bytes} {scheme : Scheme} {opts : Option SignerOpts}

/-- The digests that schemes sign are those of the two lists. -/
theorem Scheme.hash?_eq_some_iff {hash : HashAlgorithm} {isSalted : Bool} :
    scheme.hash? = some (hash, isSalted) ↔
      (scheme, hash) ∈ if isSalted then Scheme.salted else Scheme.bare := by
  constructor
  · intro found
    unfold Scheme.hash? at found
    split at found <;> cases found <;> decide
  · intro named
    cases isSalted with
    | false =>
      have known : ∀ named ∈ Scheme.bare, named.1.hash? = some (named.2, false) := by decide
      exact known _ named
    | true =>
      have known : ∀ named ∈ Scheme.salted, named.1.hash? = some (named.2, true) := by decide
      exact known _ named

/-- Ed25519 signs no digests. -/
theorem Scheme.ne_ed25519_of_hash? {hash : HashAlgorithm} {isSalted : Bool}
    (found : scheme.hash? = some (hash, isSalted)) : scheme ≠ .ed25519 := by
  rintro rfl
  cases found

/-- **A message is prepared as its scheme says**, and only by schemes that say something. -/
theorem prepare_eq_ok_iff :
    prepare wording scheme message = .ok (octets, opts) ↔ Prescribes message scheme octets opts := by
  constructor
  · intro prepared
    unfold prepare at prepared
    split at prepared
    · next same =>
      cases prepared
      exact same ▸ .ed25519
    · split at prepared
      · next hash found =>
        cases prepared
        exact .salted (Scheme.hash?_eq_some_iff.mp found)
      · next hash found =>
        cases prepared
        exact .bare (Scheme.hash?_eq_some_iff.mp found)
      · cases prepared
  · intro prescribed
    cases prescribed with
    | @salted scheme hash named =>
      have found : scheme.hash? = some (hash, true) := Scheme.hash?_eq_some_iff.mpr named
      rw [prepare, if_neg (Scheme.ne_ed25519_of_hash? found), found]
      rfl
    | @bare scheme hash named =>
      have found : scheme.hash? = some (hash, false) := Scheme.hash?_eq_some_iff.mpr named
      rw [prepare, if_neg (Scheme.ne_ed25519_of_hash? found), found]
    | ed25519 => rfl

/-- Messages are not prepared for schemes that say nothing. -/
theorem prepare_of_unprescribed (none : ∀ octets opts, ¬ Prescribes message scheme octets opts) :
    prepare wording scheme message = .error (unsupported wording scheme) := by
  unfold prepare
  split
  · next same => exact absurd (same ▸ .ed25519) (none message Option.none)
  · split
    · next found => exact absurd (.salted (Scheme.hash?_eq_some_iff.mp found)) (none _ _)
    · next found => exact absurd (.bare (Scheme.hash?_eq_some_iff.mp found)) (none _ _)
    · rfl

theorem exists_prescribes_of_hash? (hashed : scheme.hash?.isSome = true) (message : Bytes) :
    ∃ octets opts, Prescribes message scheme octets opts := by
  obtain ⟨⟨hash, isSalted⟩, found⟩ := Option.isSome_iff_exists.mp hashed
  have named := Scheme.hash?_eq_some_iff.mp found
  cases isSalted with
  | false => exact ⟨_, _, .bare named⟩
  | true => exact ⟨_, _, .salted named⟩

/-- Every scheme of a key says something. -/
theorem exists_prescribes_of_mem_schemes {key : PublicKey} (mem : scheme ∈ schemes key)
    (message : Bytes) : ∃ octets opts, Prescribes message scheme octets opts := by
  have hashed (all : (schemes key).all (·.hash?.isSome) = true) :=
    exists_prescribes_of_hash? (List.all_eq_true.mp all scheme mem) message
  match key with
  | .rsa _ => exact hashed rfl
  | .ecdsa .p256 _ => exact hashed rfl
  | .ecdsa .p384 _ => exact hashed rfl
  | .ed25519 _ =>
    obtain rfl := List.mem_singleton.mp mem
    exact ⟨_, _, .ed25519⟩

namespace Prescribes

/-- What is prepared has the length that the service demands. -/
theorem length (prescribed : Prescribes message scheme octets opts) :
    ∀ given, opts = some given → octets.length = given.algorithm.size := by
  intro given same
  cases prescribed <;> cases same <;> exact HashAlgorithm.length_digest _ message

/-- So the service asks its provider for the signature. -/
theorem asks (prescribed : Prescribes message scheme octets opts) (id : UInt64) :
    (Request.toSign id octets opts).Asks (.sign octets opts) := by
  have counts : (SignArgs.ofOpts octets opts).effectiveOpts = opts := by
    cases opts <;> rfl
  refine ⟨rfl, Call.Asks.sign_iff.mpr ?_⟩
  rw [counts]
  exact ⟨rfl, prescribed.length⟩

/-- Digests are short enough to be sent. -/
theorem fits (prescribed : Prescribes message scheme octets opts) (hashed : scheme ≠ .ed25519)
    (id : UInt64) : Frame.Fits (Request.toSign id octets opts) := by
  have short (hash : HashAlgorithm) : (hash.digest message).length ≤ 64 := by
    rw [HashAlgorithm.length_digest]
    cases hash <;> decide
  have brief (given : SignerOpts)
      (named : ∃ hash, given = .hash hash ∨ given = .pss hash .equalsHash) :
      (Message.toValue (Call.sign (.ofOpts [] (some given)))).compact.length ≤ 256 := by
    obtain ⟨hash, rfl | rfl⟩ := named <;> cases hash <;> decide +kernel
  cases prescribed with
  | salted => exact Request.fits_toSign_of_short (short _) (brief _ ⟨_, .inr rfl⟩)
  | bare => exact Request.fits_toSign_of_short (short _) (brief _ ⟨_, .inl rfl⟩)
  | ed25519 => exact absurd rfl hashed

end Prescribes

/-! ## Signing -/

/-- The request by which a key asks for its next signature. -/
def nextRequest (key : Key) (octets : Bytes) (opts : Option SignerOpts) : Request :=
  .toSign key.child.connection.nextId octets opts

/-- By a scheme that says nothing no message is signed, and the signer is not asked. -/
theorem sign_of_unprescribed (none : ∀ octets opts, ¬ Prescribes message scheme octets opts)
    (key : Key) : sign wording scheme message key = (.error (unsupported wording scheme), key) := by
  rw [sign, prepare_of_unprescribed none]

/-- To sign a message is to use the key for what is prepared. -/
theorem sign_eq (key : Key) (prepared : prepare wording scheme message = .ok (octets, opts)) :
    sign wording scheme message key =
      ((key.sign octets opts).1.mapError fun error => .tls (error.message wording),
        (key.sign octets opts).2) := by
  rw [sign, prepared]

/-- A signature is asked for by one request. -/
theorem sink_sign (key : Key) (prepared : prepare wording scheme message = .ok (octets, opts)) :
    (sign wording scheme message key).2.child.connection.transport.sink =
      (Frame.write (nextRequest key octets opts) key.child.connection.transport.sink).2 := by
  rw [sign_eq key prepared]
  exact key.sink_use (.sign octets opts)

/-- The failure of a request that is too long. -/
def tooLarge (wording : Wording) (request : Request) : Error :=
  .tls ((Error.call .sign (.frameTooLarge (Message.encode request).length
    Frame.maxLength)).message wording)

/-- Nothing goes to the signer if the request is too long. -/
theorem sign_of_large {key : Key} (prepared : prepare wording scheme message = .ok (octets, opts))
    (large : ¬ Frame.Fits (nextRequest key octets opts)) :
    (sign wording scheme message key).1 =
        .error (tooLarge wording (nextRequest key octets opts)) ∧
      (sign wording scheme message key).2.child.connection.transport =
        key.child.connection.transport := by
  have refused : key.child.connection.call (.sign (.ofOpts octets opts)) = _ :=
    Connection.call_refused large
  rw [sign_eq key prepared, Key.sign, Key.call, Connection.sign, Connection.request, refused]
  exact ⟨rfl, rfl⟩

/-- A linked key gives the signature of the provider. -/
theorem sign_eq_ok_iff_of_linked {key : Key} {provider : Signer.Provider Id} {service : Transport}
    (prepared : prepare wording scheme message = .ok (octets, opts))
    (asks : (nextRequest key octets opts).Asks (.sign octets opts))
    (linked : Linked provider [.sign (.ofOpts octets opts)] key.child.connection service)
    {signature : Bytes} : (sign wording scheme message key).1 = .ok signature ↔
      Frame.Fits (nextRequest key octets opts) ∧
        Frame.Fits (Response.ok key.child.connection.nextId (.signature signature)) ∧
        (provider.sign octets opts).run = .ok signature := by
  have performs : provider.direct (.sign (.ofOpts octets opts)) =
      (provider.sign octets opts).run.map .signature := by
    rw [← provider.perform_eq]
    exact provider.perform_of_asks asks.2
  have called : (sign wording scheme message key).1 = .ok signature ↔
      (key.child.connection.invoke (.sign (.ofOpts octets opts))).1 =
        .ok (.signature signature) := by
    rw [sign_eq key prepared, mapError_eq_ok_iff, Key.sign_eq_ok_iff, Connection.sign_eq_ok_iff]
  rw [called, linked.ok_iff, performs, map_eq_ok_iff]
  simp only [Reply.signature.injEq, exists_eq_right]
  rfl

/-- How a key signs a message by a scheme: what is prepared, and what becomes of it. -/
structure SignsBy (wording : Wording) (key : Key) (scheme : Scheme) (message octets : Bytes)
    (opts : Option SignerOpts) : Prop where
  /-- These octets and options are prepared. -/
  prepared : prepare wording scheme message = .ok (octets, opts)
  /-- They are what the scheme says. -/
  prescribed : Prescribes message scheme octets opts
  /-- One request to sign them is written, whatever the stream does. -/
  sent : (sign wording scheme message key).2.child.connection.transport.sink =
    (Frame.write (nextRequest key octets opts) key.child.connection.transport.sink).2
  /-- Only a message that is signed itself can be too long for that. -/
  fits : scheme ≠ .ed25519 → Frame.Fits (nextRequest key octets opts)
  /-- If it is, nothing goes to the signer. -/
  refused : ¬ Frame.Fits (nextRequest key octets opts) →
    (sign wording scheme message key).1 = .error (tooLarge wording (nextRequest key octets opts)) ∧
      (sign wording scheme message key).2.child.connection.transport =
        key.child.connection.transport
  /-- A service does not refuse the request, and asks its provider for nothing else. -/
  asks : ∀ {m : Type → Type} [Monad m] [LawfulMonad m] (provider : Signer.Provider m)
    (earlier : List Signer.Inquiry),
    (provider.recorded.handle (nextRequest key octets opts)).run earlier =
      (fun result => (Response.telling key.child.connection.nextId (result.map .signature),
        earlier ++ [.sign octets opts])) <$> provider.sign octets opts
  /-- What a service at the other end of the streams gives is the signature of its provider. -/
  answered : ∀ {provider : Signer.Provider Id} {service : Transport},
    Linked provider [.sign (.ofOpts octets opts)] key.child.connection service →
      ∀ signature, (sign wording scheme message key).1 = .ok signature ↔
        Frame.Fits (nextRequest key octets opts) ∧
          Frame.Fits (Response.ok key.child.connection.nextId (.signature signature)) ∧
          (provider.sign octets opts).run = .ok signature

/-- A message is signed as its scheme says. -/
theorem signsBy_of_prescribes (wording : Wording) (key : Key)
    (prescribed : Prescribes message scheme octets opts) :
    SignsBy wording key scheme message octets opts := by
  have prepared : prepare wording scheme message = .ok (octets, opts) :=
    prepare_eq_ok_iff.mpr prescribed
  have asks : (nextRequest key octets opts).Asks _ := prescribed.asks key.child.connection.nextId
  exact
    { prepared, prescribed
      sent := sink_sign key prepared
      fits := fun hashed => prescribed.fits hashed _
      refused := sign_of_large prepared
      asks := by
        intro m _ _ provider earlier
        rw [provider.recorded.handle_of_asks asks, StateT.run_map, provider.run_answer_recorded,
          Signer.Provider.answer, Functor.map_map, Functor.map_map]
        rfl
      answered := fun linked signature => sign_eq_ok_iff_of_linked prepared asks linked }

/-- **What follows from what a server offers.**  The certificates are presented exactly if a scheme
is chosen, and that is so exactly if a scheme of the key is offered.  The scheme that is chosen is
the first one of the key that is offered, and by this one every message is signed.  By a scheme that
says nothing about a message it is not signed, and the signer is not asked. -/
theorem chosen_signs (wording : Wording) (key : Key) (offered : List Scheme) :
    ((choose key.publicKey offered).isSome ↔ (present key.toIdentity offered).isSome) ∧
    ((choose key.publicKey offered).isSome ↔
      ∃ scheme ∈ schemes key.publicKey, scheme ∈ offered) ∧
    (∀ chain, present key.toIdentity offered = some chain → chain = key.chain) ∧
    (∀ scheme, choose key.publicKey offered = some scheme →
      scheme ∈ offered ∧
      (∃ before after, schemes key.publicKey = before ++ scheme :: after ∧
        ∀ other ∈ before, other ∉ offered) ∧
      ∀ message, ∃ octets opts, SignsBy wording key scheme message octets opts) ∧
    ∀ scheme message, (∀ octets opts, ¬ Prescribes message scheme octets opts) →
      sign wording scheme message key = (.error (unsupported wording scheme), key) := by
  refine ⟨?_, choose_isSome_iff, fun chain presented => (present_eq_some_iff.mp presented).1, ?_,
    fun scheme message none => sign_of_unprescribed none key⟩
  · rw [choose_isSome_iff, Option.isSome_iff_exists]
    simp only [present_eq_some_iff, exists_eq_left]
  · intro scheme chosen
    obtain ⟨mem, first⟩ := choose_eq_some_iff.mp chosen
    refine ⟨mem, first, fun message => ?_⟩
    have own : scheme ∈ schemes key.publicKey := List.mem_of_find?_eq_some chosen
    obtain ⟨octets, opts, prescribed⟩ := exists_prescribes_of_mem_schemes own message
    exact ⟨octets, opts, signsBy_of_prescribes wording key prescribed⟩

/-- A signer that tells its public key, and nothing else. -/
def telling (publicKey : PublicKey) : Process :=
  let responses : List Response :=
    [.ok 0 (.certificateChain [[0x30]]), .ok 1 (.publicKey publicKey.encode)]
  { transport := { source := { chunks := [.octets (Frame.framesOf responses)] } } }

/-- The second choice of an RSA key, offered behind its last one and twice; and a scheme by which no
messages are signed. -/
theorem chosen_signs_second :
    let wording : Wording := ⟨fun _ => "unexpected end", fun _ => "RSA_PKCS1_SHA1"⟩
    let publicKey : PublicKey := .rsa Signer.SoftwareKey.mersenneKey.toPublicKey
    let offered : List Scheme := [.rsaPkcs1Sha512, .rsaPssSha384, ⟨0x0201⟩, .rsaPssSha384]
    ∃ key, Key.spawn (fun _ _ => .ok (telling publicKey)) [] [] = .ok key ∧
      choose key.publicKey offered = some .rsaPssSha384 ∧
      present key.toIdentity offered = some [[0x30]] ∧
      SignsBy wording key .rsaPssSha384 [1] (HashAlgorithm.sha384.digest [1])
        (some (.pss .sha384 .equalsHash)) ∧
      sign wording ⟨0x0201⟩ [1] key =
        (.error (.tls "Unsupported signature scheme RSA_PKCS1_SHA1"), key) := by
  intro wording publicKey offered
  have opens : (Key.spawn (fun _ _ => .ok (telling publicKey)) [] []).map (·.toIdentity) =
      .ok ⟨[[0x30]], publicKey, publicKey.encode⟩ := by decide +kernel
  obtain ⟨key, spawned, told⟩ := map_eq_ok_iff.mp opens
  have chosen : choose key.publicKey offered = some .rsaPssSha384 := by
    rw [told]
    rfl
  have unsigned : ∀ octets opts, ¬ Prescribes [1] ⟨0x0201⟩ octets opts := by
    intro octets opts prescribed
    have prepared : prepare wording ⟨0x0201⟩ [1] = .ok (octets, opts) :=
      prepare_eq_ok_iff.mpr prescribed
    cases prepared
  obtain ⟨-, -, -, signs, refuses⟩ := chosen_signs wording key offered
  obtain ⟨octets, opts, signed⟩ := (signs _ chosen).2.2 [1]
  refine ⟨key, spawned, chosen, ?_, ?_, refuses _ _ unsigned⟩
  · rw [told]
    rfl
  · have prepared := signed.prepared
    cases prepared
    exact signed

/-- A message that is signed itself may be too long to be sent. -/
theorem not_sends_any_message :
    ¬ ∀ (wording : Wording) (launch : Launcher) (signer config : Bytes) (key : Key),
      Key.spawn launch signer config = .ok key →
        ∀ (offered : List Scheme) (scheme : Scheme), choose key.publicKey offered = some scheme →
          key.child.connection.transport.sink.Patient →
            ∀ message, ∃ octets opts,
              (sign wording scheme message key).2.child.connection.transport.sink.written =
                key.child.connection.transport.sink.written ++
                  Frame.ofMessage (nextRequest key octets opts) := by
  intro sends
  let wording : Wording := ⟨fun _ => "", fun _ => ""⟩
  let publicKey : PublicKey := .ed25519 (Bytes.ofNatural 32
    0xD75A980182B10AB7D54BFED3C964073A0EE172F3DAA62325AF021A68F707511A)
  have opens : (Key.spawn (fun _ _ => .ok (telling publicKey)) [] []).map (fun key =>
      (key.publicKey, key.child.connection.transport.sink.script,
        key.child.connection.transport.sink.flushScript)) = .ok (publicKey, [], []) := by
    decide +kernel
  obtain ⟨key, spawned, told⟩ := map_eq_ok_iff.mp opens
  obtain ⟨own, scripts⟩ := Prod.mk.inj told
  obtain ⟨prompt, flushes⟩ := Prod.mk.inj scripts
  have chosen : choose key.publicKey [.ed25519] = some .ed25519 := by
    rw [own]
    rfl
  have arbitrary (n : Nat) : ∃ message : Bytes, n < message.length :=
    ⟨List.replicate (n + 1) 0, by rw [List.length_replicate]; exact Nat.lt_succ_self n⟩
  obtain ⟨message, long⟩ := arbitrary Frame.maxLength
  have patient : key.child.connection.transport.sink.Patient := Sink.patient_of_nil prompt flushes
  obtain ⟨octets, opts, written⟩ :=
    sends wording _ _ _ key spawned [.ed25519] .ed25519 chosen patient message
  have prepared : prepare wording .ed25519 message = .ok (message, none) := rfl
  have large : ¬ Frame.Fits (nextRequest key message none) :=
    Request.not_fits_toSign_of_long long
  rw [(sign_of_large prepared large).2] at written
  have empty := List.self_eq_append_right.mp written
  rw [Frame.ofMessage, Frame.encode] at empty
  have header := congrArg List.length (List.append_eq_nil_iff.mp empty).1
  rw [Bytes.length_ofNatural] at header
  cases header

end Client.Tls

end RemoteSigner
